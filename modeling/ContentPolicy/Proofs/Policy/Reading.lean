import ContentPolicy.Policy.Parser
import ContentPolicy.Proofs.Sorted.Map

/-!
What reading a policy finds under each type: the first directive of the type among the segments, or
a copy of the directive for all types. All is said through look-ups by type.
-/

namespace ContentPolicy

namespace Directive

def whitelist? : Directive → Option Whitelist
  | .regular _ sources => some sources
  | _ => none

end Directive

namespace PolicyParser

theorem get?_foldl_insertNew (ds : List Directive) (m : SortedMap String Directive)
    (type : String) :
    (ds.foldl (fun m d => m.insertNew d.type d) m).get? type =
      (m.get? type).or (ds.find? fun d => d.type = type) := by
  -- For any start, since what the first directive puts there is in the way of the others.
  induction ds generalizing m with
  | nil => simp
  | cons d ds ih =>
      rw [List.foldl_cons, ih, SortedMap.get?_insertNew, List.find?_cons, Option.or_assoc]
      by_cases same : d.type = type
      · simp [same]
      · simp [same, Ne.symm same]

theorem get?_firstOfEachType (ds : List Directive) (type : String) :
    (firstOfEachType ds).get? type =
      (ds.filter (· ≠ .invalid)).find? fun d => d.type = type := by
  rw [firstOfEachType, get?_foldl_insertNew, SortedMap.get?_empty, Option.none_or]

theorem get?_foldl_copies (types : List String) (copy : String → Directive)
    (m : SortedMap String Directive) (type : String) :
    (types.foldl (fun m type => m.insertNew type (copy type)) m).get? type =
      (m.get? type).or (if type ∈ types then some (copy type) else none) := by
  induction types generalizing m with
  | nil => simp
  | cons t types ih =>
      rw [List.foldl_cons, ih, SortedMap.get?_insertNew, Option.or_assoc]
      by_cases same : type = t
      · subst same
        simp
      · simp [same]

theorem get?_expand (types : List String) (m : SortedMap String Directive) (type : String) :
    (expand types m).get? type =
      match m.get? Policy.defaultType with
      | none => m.get? type
      | some default =>
          (if type = Policy.defaultType then none else m.get? type).or
            (if type ∈ types then some (.make type default.sources.toList) else none) := by
  rw [expand]
  cases m.get? Policy.defaultType with
  | none => rfl
  | some default => rw [get?_foldl_copies, SortedMap.get?_erase]

theorem expand_cases {types : List String} {m : SortedMap String Directive} {type : String}
    {d : Directive} (found : (expand types m).get? type = some d) :
    m.get? type = some d ∨
      type ∈ types ∧ ∃ default, m.get? Policy.defaultType = some default ∧
        d = .make type default.sources.toList := by
  rw [get?_expand] at found
  split at found
  · exact .inl found
  · rename_i default present
    rcases Option.or_eq_some_iff.mp found with own | ⟨_, copied⟩
    · split at own
      · cases own
      · exact .inl own
    · split at copied
      · rename_i listed
        exact .inr ⟨listed, default, present, (Option.some.inj copied).symm⟩
      · cases copied

def byType (p : PolicyParser) (text : List Char) : SortedMap String Directive :=
  let first := firstOfEachType (p.readSegments text)
  if p.expandDefaultSrc then expand p.defaultSrcTypes first else first

theorem read_eq (p : PolicyParser) (text : List Char) :
    p.read text =
      if p.strict && (p.readSegments text).contains .invalid || (p.byType text).isEmpty then
        .invalid
      else .ofDirectives (p.byType text).values := by
  rw [read]
  cases p.strict && (p.readSegments text).contains .invalid with
  | true => rfl
  | false => rfl

def WellKeyed (m : SortedMap String Directive) : Prop :=
  ∀ type d, m.get? type = some d → d.type = type

theorem firstOfEachType_wellKeyed (ds : List Directive) : WellKeyed (firstOfEachType ds) := by
  intro type d found
  rw [get?_firstOfEachType] at found
  simpa using List.find?_some found

theorem expand_wellKeyed (types : List String) {m : SortedMap String Directive}
    (keyed : WellKeyed m) : WellKeyed (expand types m) := by
  intro type d found
  rcases expand_cases found with own | ⟨_, default, _, rfl⟩
  · exact keyed type d own
  · rfl

theorem byType_wellKeyed (p : PolicyParser) (text : List Char) : WellKeyed (p.byType text) := by
  rw [byType]
  split
  · exact expand_wellKeyed _ (firstOfEachType_wellKeyed _)
  · exact firstOfEachType_wellKeyed _

/-- The directives that count are the first ones of their types, and copies of the one for all
types under the listed types that have none. -/
theorem byType_cases {p : PolicyParser} {text : List Char} {type : String} {d : Directive}
    (found : (p.byType text).get? type = some d) :
    (firstOfEachType (p.readSegments text)).get? type = some d ∨
      type ∈ p.defaultSrcTypes ∧ ∃ default,
        (firstOfEachType (p.readSegments text)).get? Policy.defaultType = some default ∧
          d = .make type default.sources.toList := by
  rw [byType] at found
  split at found
  · exact expand_cases found
  · exact .inl found

theorem get?_foldl_regular (es : List (String × Directive)) (sorted : Ascending (es.map Prod.fst))
    (keyed : ∀ e ∈ es, e.2.type = e.1) (m : SortedMap String Whitelist) (type : String) :
    ((es.map Prod.snd).foldl
      (fun m d =>
        match d with
        | .regular type sources => m.insert type sources
        | _ => m) m).get? type =
      ((SortedMap.find type es).bind Directive.whitelist?).or (m.get? type) := by
  induction es generalizing m with
  | nil => rfl
  | cons e rest ih =>
      obtain ⟨key, d⟩ := e
      have later := ih (List.Pairwise.of_cons sorted)
        (fun e member => keyed e (List.mem_cons_of_mem _ member))
      have here : d.type = key := keyed (key, d) List.mem_cons_self
      rw [List.map_cons, List.foldl_cons, later, SortedMap.find]
      by_cases same : type = key
      -- Keys are distinct: nothing later replaces what the first entry puts there.
      · subst same
        rw [SortedMap.find_first_eq_none sorted, if_pos ((SortedMap.compare_eq_iff type type).mpr rfl)]
        cases d with
        | regular t sources =>
            obtain rfl : t = type := here
            simp [SortedMap.get?_insert, Directive.whitelist?]
        | restriction phrase => rfl
        | invalid => rfl
      · rw [if_neg (mt (SortedMap.compare_eq_iff type key).mp same)]
        cases d with
        | regular t sources =>
            obtain rfl : t = key := here
            rw [SortedMap.get?_insert, if_neg same]
        | restriction phrase => rfl
        | invalid => rfl

theorem get?_ofDirectives {m : SortedMap String Directive} (keyed : WellKeyed m) (type : String) :
    (Policy.ofDirectives m.values).whitelists.get? type =
      (m.get? type).bind Directive.whitelist? := by
  have found := get?_foldl_regular m.entries m.ascending
    (fun e member => keyed e.1 e.2 (SortedMap.get?_of_mem member)) ∅ type
  rw [SortedMap.get?_empty, Option.or_none] at found
  exact found

theorem get?_read {p : PolicyParser} {text : List Char} {m : SortedMap String Whitelist}
    (valid : p.read text = .valid m) (type : String) :
    m.get? type = ((p.byType text).get? type).bind Directive.whitelist? := by
  rw [read_eq] at valid
  split at valid
  · cases valid
  · have found := get?_ofDirectives (byType_wellKeyed p text) type
    rw [valid] at found
    exact found

end PolicyParser

end ContentPolicy
