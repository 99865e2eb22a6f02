import Mathlib.Data.List.Forall2
import ContentPolicy.Proofs.Policy.Basics
import ContentPolicy.Proofs.Policy.Combination

/-!
Policies as tables of directives. A table keeps whole directives under keys. By itself it does not
make a key the type of its directive, keep phrases out, or empty a table that is no policy; and it
is combined directive by directive, which fails where two directives under one key do not combine.
Each operation on tables is that on the policies which they represent.
-/

namespace ContentPolicy

open Relator

/-- Directives by keys, and a mark for what is no policy. -/
structure PolicyTable where
  isInvalid : Bool
  directives : SortedMap String Directive
  deriving DecidableEq

namespace PolicyTable

def invalid : PolicyTable := ⟨true, ∅⟩

def ofDirectives (ds : List Directive) : PolicyTable :=
  ⟨false, (ds.filter Directive.isRegular).foldl (fun m d => m.insert d.type d) ∅⟩

def hasDefault (t : PolicyTable) : Bool := t.directives.contains Policy.defaultType

def isDefaultOnlyOrEmpty (t : PolicyTable) : Bool :=
  if t.hasDefault then t.directives.size = 1 else t.directives.isEmpty

def conflict (t u : PolicyTable) : Bool :=
  (t.hasDefault || u.hasDefault) && !(t.isDefaultOnlyOrEmpty && u.isDefaultOnlyOrEmpty)

def mergeEntry (m : SortedMap String Directive) (e : String × Directive) :
    Option (SortedMap String Directive) :=
  let merged :=
    match m.get? e.1 with
    | some d => d.combine e.2
    | none => e.2
  if merged = .invalid then none else some (m.insert e.1 merged)

def merge? (m n : SortedMap String Directive) : Option (SortedMap String Directive) :=
  n.entries.foldlM mergeEntry m

def combine (t u : PolicyTable) : PolicyTable :=
  if t.isInvalid || u.isInvalid || conflict t u then invalid
  else
    match merge? t.directives u.directives with
    | some m => ⟨false, m⟩
    | none => invalid

def stripPaths (schemes : List String) (t : PolicyTable) : PolicyTable :=
  if t.isInvalid then invalid
  else ofDirectives (t.directives.values.map (Directive.stripPaths schemes))

def basics (t : PolicyTable) : List PolicyTable :=
  if t.isInvalid then []
  else if t.directives.isEmpty then [t]
  else (t.directives.values.flatMap Directive.basics).map fun d => ofDirectives [d]

def common (t u : PolicyTable) : List PolicyTable :=
  if t.isInvalid || u.isInvalid then [] else t.basics.filter (· ∈ u.basics)

def only (t u : PolicyTable) : List PolicyTable :=
  if t.isInvalid || u.isInvalid then [] else t.basics.filter (· ∉ u.basics)

/-- Whether a table has the directives of a policy, each under its type, and is no policy where the
policy is none. -/
structure Represents (t : PolicyTable) (p : Policy) : Prop where
  isInvalid : t.isInvalid = p.isInvalid
  directives : ∀ key, t.directives.get? key = p.directive? key

end PolicyTable

namespace Policy

theorem ofDirectives_regular (es : List (String × Whitelist)) :
    ofDirectives (es.map fun e => .regular e.1 e.2) = .valid (.ofList es) := by
  rw [ofDirectives, List.foldl_map]
  rfl

theorem ofDirectives_directives (m : SortedMap String Whitelist) :
    ofDirectives (valid m).directives = .valid m :=
  (ofDirectives_regular m.entries).trans (congrArg valid (SortedMap.ofList_entries m))

theorem directives_strip (schemes : List String) (m : SortedMap String Whitelist) :
    ((valid m).stripPaths schemes).directives =
      (valid m).directives.map (Directive.stripPaths schemes) := by
  change ((m.mapValues (Whitelist.strip schemes)).entries.map fun e => Directive.regular e.1 e.2) =
    (m.entries.map fun e => Directive.regular e.1 e.2).map (Directive.stripPaths schemes)
  rw [SortedMap.mapValues, List.map_map, List.map_map]
  rfl

theorem basics_eq_directives {m : SortedMap String Whitelist} (notEmpty : m.isEmpty = false) :
    (valid m).basics =
      ((valid m).directives.flatMap Directive.basics).map fun d => ofDirectives [d] := by
  rw [basics_of_some notEmpty]
  change _ = ((m.entries.map fun e => Directive.regular e.1 e.2).flatMap Directive.basics).map _
  rw [List.flatMap_map, List.map_flatMap]
  refine List.flatMap_congr fun e _ => ?_
  rw [Directive.basics, List.map_map]
  rfl

theorem directive?_combine {p q : Policy} (isValid : (p.combine q).isInvalid = false)
    (type : String) :
    (p.combine q).directive? type =
      Option.merge Directive.combine (p.directive? type) (q.directive? type) := by
  rw [directive?, directive?, directive?, get?_combine isValid]
  cases p.whitelists.get? type with
  | none => cases q.whitelists.get? type <;> rfl
  | some v =>
      cases q.whitelists.get? type with
      | none => rfl
      | some w => exact congrArg some (if_pos rfl).symm

theorem combine_eq_invalid_iff {p q : Policy} :
    p.combine q = .invalid ↔ p = .invalid ∨ q = .invalid ∨ p.conflict q = true := by
  cases p with
  | invalid => exact iff_of_true rfl (.inl rfl)
  | valid m =>
      cases q with
      | invalid => exact iff_of_true rfl (.inr (.inl rfl))
      | valid n =>
          rw [combine]
          split
          · rename_i mixed
            exact iff_of_true rfl (.inr (.inr mixed))
          · rename_i apart
            exact iff_of_false Policy.noConfusion (by simpa using apart)

theorem onlyRight_compareWith (p q : Policy) :
    (p.compareWith q).onlyRight = (q.compareWith p).onlyLeft := by
  rw [compareWith, compareWith, Bool.or_comm]
  split <;> rfl

end Policy

namespace PolicyTable

namespace Represents

variable {t u : PolicyTable} {p q : Policy}

theorem ext (first : t.Represents p) (second : u.Represents p) : t = u := by
  obtain ⟨tInvalid, ts⟩ := t
  obtain ⟨uInvalid, us⟩ := u
  have marks : tInvalid = uInvalid := first.isInvalid.trans second.isInvalid.symm
  have tables : ts = us :=
    SortedMap.ext_get? fun key => (first.directives key).trans (second.directives key).symm
  rw [marks, tables]

theorem injective (first : t.Represents p) (second : t.Represents q) : p = q := by
  have marks : p.isInvalid = q.isInvalid := first.isInvalid.symm.trans second.isInvalid
  have same : ∀ key, p.directive? key = q.directive? key :=
    fun key => (first.directives key).symm.trans (second.directives key)
  cases p with
  | invalid =>
      cases q with
      | invalid => rfl
      | valid n => cases marks
  | valid m =>
      cases q with
      | invalid => cases marks
      | valid n =>
          refine congrArg Policy.valid (SortedMap.ext_get? fun key => ?_)
          have injective : Function.Injective (Directive.regular key) :=
            fun _ _ h => (Directive.regular.inj h).2
          exact Option.map_injective injective (same key)

/-- A table represents at most one policy, and a policy is represented by at most one table. -/
theorem biUnique : BiUnique Represents :=
  ⟨fun _ _ _ => ext, fun _ _ _ => injective⟩

theorem entries_eq (represents : t.Represents p) :
    t.directives.entries = p.whitelists.entries.map fun e => (e.1, .regular e.1 e.2) := by
  have sorted : Ascending ((p.whitelists.entries.map fun e =>
      (e.1, Directive.regular e.1 e.2)).map Prod.fst) := by
    rw [List.map_map]
    exact p.whitelists.ascending
  refine SortedMap.entries_unique _ _ t.directives.ascending sorted fun ⟨key, d⟩ => ?_
  rw [← SortedMap.get?_eq_some_iff, represents.directives, Policy.directive?,
    Option.map_eq_some_iff, List.mem_map]
  constructor
  · rintro ⟨w, found, rfl⟩
    exact ⟨(key, w), (SortedMap.get?_eq_some_iff _ _ _).mp found, rfl⟩
  · rintro ⟨⟨type, w⟩, entry, same⟩
    cases same
    exact ⟨w, (SortedMap.get?_eq_some_iff _ _ _).mpr entry, rfl⟩

theorem values_eq (represents : t.Represents p) : t.directives.values = p.directives := by
  rw [SortedMap.values, represents.entries_eq, List.map_map]
  rfl

theorem size_eq (represents : t.Represents p) : t.directives.size = p.size := by
  rw [SortedMap.size, represents.entries_eq, List.length_map]
  rfl

theorem isEmpty_eq (represents : t.Represents p) : t.directives.isEmpty = p.hasNoDirective := by
  rw [SortedMap.isEmpty, represents.entries_eq, List.isEmpty_map]
  rfl

theorem hasDefault_eq (represents : t.Represents p) : t.hasDefault = p.hasDefault := by
  rw [hasDefault, SortedMap.contains, represents.directives, Policy.directive?, Option.isSome_map]
  rfl

theorem isDefaultOnlyOrEmpty_eq (represents : t.Represents p) :
    t.isDefaultOnlyOrEmpty = p.isDefaultOnlyOrEmpty := by
  rw [isDefaultOnlyOrEmpty, Policy.isDefaultOnlyOrEmpty, represents.hasDefault_eq,
    represents.size_eq, represents.isEmpty_eq]
  cases default : p.hasDefault with
  | false => simp
  | true =>
      obtain ⟨w, found⟩ := (SortedMap.contains_iff _ _).mp default
      have notEmpty : p.hasNoDirective = false := by
        rw [← Bool.not_eq_true]
        intro empty
        rw [(SortedMap.isEmpty_iff _).mp empty] at found
        cases found
      simp [notEmpty]

theorem regular (represents : t.Represents p) {key : String} {d : Directive}
    (found : t.directives.get? key = some d) : ∃ w, d = .regular key w := by
  rw [represents.directives, Policy.directive?] at found
  obtain ⟨w, _, same⟩ := Option.map_eq_some_iff.mp found
  exact ⟨w, same.symm⟩

theorem conflict_eq (first : t.Represents p) (second : u.Represents q) :
    conflict t u = p.conflict q := by
  rw [conflict, Policy.conflict, first.hasDefault_eq, second.hasDefault_eq,
    first.isDefaultOnlyOrEmpty_eq, second.isDefaultOnlyOrEmpty_eq]

end Represents

variable {t u : PolicyTable} {p q : Policy}

theorem represents_invalid : invalid.Represents .invalid := ⟨rfl, fun _ => rfl⟩

theorem get?_foldl_directives (ds : List Directive) {m : SortedMap String Directive}
    {n : SortedMap String Whitelist}
    (same : ∀ key, m.get? key = (n.get? key).map (.regular key)) (key : String) :
    ((ds.filter Directive.isRegular).foldl (fun m d => m.insert d.type d) m).get? key =
      ((ds.foldl
        (fun m d =>
          match d with
          | .regular type sources => m.insert type sources
          | _ => m) n).get? key).map (.regular key) := by
  induction ds generalizing m n with
  | nil => exact same key
  | cons d rest ih =>
      cases d with
      | regular type sources =>
          apply ih
          intro key
          rw [SortedMap.get?_insert, SortedMap.get?_insert, Directive.type]
          split
          · rename_i own
            rw [own]
            rfl
          · exact same key
      | restriction phrase => exact ih same
      | invalid => exact ih same

theorem represents_ofDirectives (ds : List Directive) :
    (ofDirectives ds).Represents (.ofDirectives ds) :=
  ⟨rfl, get?_foldl_directives ds fun _ => rfl⟩

theorem mergeEntry_regular {m : SortedMap String Directive} {key : String} {w : Whitelist}
    (regular : ∀ d, m.get? key = some d → ∃ v, d = .regular key v) :
    ∃ merged, mergeEntry m (key, .regular key w) = some (m.insert key (.regular key merged)) ∧
      Option.merge Directive.combine (m.get? key) (some (.regular key w)) =
        some (.regular key merged) := by
  rw [mergeEntry]
  dsimp only
  cases present : m.get? key with
  | none => exact ⟨w, if_neg nofun, rfl⟩
  | some d =>
      obtain ⟨v, rfl⟩ := regular d present
      have merged : (Directive.regular key v).combine (.regular key w) =
          .regular key (v.union w) := if_pos rfl
      exact ⟨v.union w, by simp [merged], congrArg some merged⟩

/-- Directives under their types are merged without fail, each with the one of its type. -/
theorem foldlM_mergeEntry {es : List (String × Directive)} (sorted : Ascending (es.map Prod.fst))
    (regular : ∀ e ∈ es, ∃ w, e.2 = .regular e.1 w) {m : SortedMap String Directive}
    (own : ∀ key d, m.get? key = some d → ∃ w, d = .regular key w) :
    ∃ merged, es.foldlM mergeEntry m = some merged ∧ ∀ key,
      merged.get? key = Option.merge Directive.combine (m.get? key) (SortedMap.find key es) := by
  induction es generalizing m with
  | nil => exact ⟨m, rfl, fun key => by rw [SortedMap.find, Option.merge_none_right]⟩
  | cons e rest ih =>
      obtain ⟨type, d⟩ := e
      obtain ⟨w, same⟩ := regular (type, d) List.mem_cons_self
      obtain rfl : d = .regular type w := same
      obtain ⟨v, step, here⟩ := mergeEntry_regular (w := w) (own type)
      obtain ⟨merged, run, found⟩ := ih (List.Pairwise.of_cons sorted)
        (fun e member => regular e (List.mem_cons_of_mem _ member))
        (SortedMap.forall_insert own ⟨v, rfl⟩)
      refine ⟨merged, ?_, fun key => ?_⟩
      · rw [List.foldlM_cons, step]
        exact run
      · rw [found, SortedMap.get?_insert, SortedMap.find]
        by_cases same : key = type
        -- Nothing later is merged with the first directive.
        · subst same
          rw [SortedMap.find_first_eq_none sorted, if_pos rfl,
            if_pos ((SortedMap.compare_eq_iff key key).mpr rfl), here]
          rfl
        · rw [if_neg same, if_neg (mt (SortedMap.compare_eq_iff key type).mp same)]

theorem merge?_of_represents (first : t.Represents p) (second : u.Represents q) :
    ∃ merged, merge? t.directives u.directives = some merged ∧ ∀ key,
      merged.get? key = Option.merge Directive.combine (p.directive? key) (q.directive? key) := by
  have regular : ∀ e ∈ u.directives.entries, ∃ w, e.2 = .regular e.1 w :=
    fun e entry => second.regular (SortedMap.get?_of_mem entry)
  obtain ⟨merged, run, found⟩ := foldlM_mergeEntry u.directives.ascending regular
    fun _ _ found => first.regular found
  refine ⟨merged, run, fun key => ?_⟩
  rw [← first.directives, ← second.directives]
  exact found key

theorem represents_combine (first : t.Represents p) (second : u.Represents q) :
    (t.combine u).Represents (p.combine q) := by
  have marks : (t.isInvalid || u.isInvalid || conflict t u) = (p.combine q).isInvalid := by
    rw [first.isInvalid, second.isInvalid, first.conflict_eq second]
    cases p with
    | invalid => rfl
    | valid m =>
        cases q with
        | invalid => rfl
        | valid n =>
            rw [Policy.combine]
            cases (Policy.valid m).conflict (.valid n) <;> rfl
  rw [combine, marks]
  cases combined : p.combine q with
  | invalid => exact represents_invalid
  | valid m =>
      obtain ⟨merged, run, found⟩ := merge?_of_represents first second
      have isValid : (p.combine q).isInvalid = false := congrArg Policy.isInvalid combined
      rw [run]
      refine ⟨rfl, fun key => (found key).trans ?_⟩
      rw [← combined, Policy.directive?_combine isValid]

theorem represents_stripPaths (schemes : List String) (represents : t.Represents p) :
    (t.stripPaths schemes).Represents (p.stripPaths schemes) := by
  rw [stripPaths, represents.isInvalid, represents.values_eq]
  cases p with
  | invalid => exact represents_invalid
  | valid m =>
      have again : Policy.ofDirectives ((Policy.valid m).stripPaths schemes).directives =
          (Policy.valid m).stripPaths schemes := Policy.ofDirectives_directives _
      rw [Policy.directives_strip] at again
      exact again ▸ represents_ofDirectives _

theorem represents_basics (represents : t.Represents p) :
    List.Forall₂ Represents t.basics p.basics := by
  rw [basics, represents.isInvalid, represents.isEmpty_eq, represents.values_eq]
  cases p with
  | invalid => exact .nil
  | valid m =>
      cases empty : m.isEmpty with
      | true =>
          have noDirective : (Policy.valid m).hasNoDirective = true := empty
          have own : (Policy.valid m).basics = [.valid m] := if_pos empty
          rw [noDirective, own]
          exact .cons represents .nil
      | false =>
          have hasDirective : (Policy.valid m).hasNoDirective = false := empty
          rw [hasDirective, Policy.basics_eq_directives empty]
          refine List.forall₂_map_left_iff.mpr (List.forall₂_map_right_iff.mpr ?_)
          exact List.forall₂_same.mpr fun d _ => represents_ofDirectives [d]

theorem mem_basics_iff (represents : t.Represents p) {b : PolicyTable} {c : Policy}
    (part : b.Represents c) : b ∈ t.basics ↔ c ∈ p.basics :=
  List.rel_mem Represents.biUnique part (represents_basics represents)

theorem represents_common (first : t.Represents p) (second : u.Represents q) :
    List.Forall₂ Represents (t.common u) (p.compareWith q).common := by
  rw [common, Policy.compareWith, first.isInvalid, second.isInvalid]
  split
  · exact .nil
  · refine List.rel_filter (fun b c part => ?_) (represents_basics first)
    simp only [decide_eq_true_eq, mem_basics_iff second part]

theorem represents_onlyLeft (first : t.Represents p) (second : u.Represents q) :
    List.Forall₂ Represents (t.only u) (p.compareWith q).onlyLeft := by
  rw [only, Policy.compareWith, first.isInvalid, second.isInvalid]
  split
  · exact .nil
  · refine List.rel_filter (fun b c part => ?_) (represents_basics first)
    simp only [decide_eq_true_eq, mem_basics_iff second part]

theorem represents_onlyRight (first : t.Represents p) (second : u.Represents q) :
    List.Forall₂ Represents (u.only t) (p.compareWith q).onlyRight := by
  rw [Policy.onlyRight_compareWith]
  exact represents_onlyLeft second first

end PolicyTable

end ContentPolicy
