import Mathlib.Data.List.DropRight
import Mathlib.Data.List.TakeWhile
import ContentPolicy.Proofs.Text.Characters

/-!
Texts put together from pieces and taken apart again. Pieces that are joined by a separator that
none of them holds come back from the split; a text that starts and ends with characters that are
not blank is not changed by trimming. A token is a piece that neither a blank nor a semicolon cuts.
-/

namespace ContentPolicy.Text

/-- A piece that keeps together where texts are split at semicolons and at blanks. -/
def IsToken (cs : List Char) : Prop := cs ≠ [] ∧ ∀ c ∈ cs, isBlank c = false ∧ c ≠ ';'

instance (cs : List Char) : Decidable (IsToken cs) :=
  decidable_of_iff (cs ≠ [] ∧ (cs.all fun c => isBlank c = false ∧ c ≠ ';') = true)
    (by simp [IsToken])

theorem head?_append_of_forall {holds : Char → Prop} {cs : List Char} (notEmpty : cs ≠ [])
    (all : ∀ c ∈ cs, holds c) (rest : List Char) : ∀ c ∈ (cs ++ rest).head?, holds c := by
  intro c first
  rw [List.head?_append, Option.or_of_isSome (List.isSome_head?.mpr notEmpty)] at first
  exact all c (List.mem_of_mem_head? first)

theorem getLast?_append_of_forall {holds : Char → Prop} {cs rest : List Char}
    (all : ∀ c ∈ cs, holds c) (last : ∀ c ∈ rest.getLast?, holds c) :
    ∀ c ∈ (cs ++ rest).getLast?, holds c := by
  intro c ending
  rw [List.getLast?_append] at ending
  rcases Option.or_eq_some_iff.mp ending with later | ⟨_, earlier⟩
  · exact last c later
  · exact all c (List.mem_of_mem_getLast? earlier)

theorem isBlank_space : isBlank ' ' = true := by decide

theorem trim_space_cons (cs : List Char) : trim (' ' :: cs) = trim cs := by
  simp [trim, isBlank_space]

theorem trim_eq_self {cs : List Char} (first : ∀ c ∈ cs.head?, isBlank c = false)
    (last : ∀ c ∈ cs.getLast?, isBlank c = false) : trim cs = cs := by
  have front : cs.dropWhile isBlank = cs := by
    cases cs with
    | nil => rfl
    | cons c rest => simp [first c rfl]
  have back : cs.reverse.dropWhile isBlank = cs.reverse := by
    cases reversed : cs.reverse with
    | nil => rfl
    | cons c rest =>
        have ending : c ∈ cs.getLast? := by
          rw [← List.head?_reverse, reversed]
          rfl
        simp [last c ending]
  rw [trim, front, back, List.reverse_reverse]

theorem trim_of_no_blank {cs : List Char} (clear : ∀ c ∈ cs, isBlank c = false) : trim cs = cs :=
  trim_eq_self (fun c first => clear c (List.mem_of_mem_head? first))
    (fun c last => clear c (List.mem_of_mem_getLast? last))

theorem rdropWhile_append_of_last {p : Char → Bool} {front rest : List Char}
    (last : ∀ c ∈ front.getLast?, p c = false) :
    (front ++ rest).rdropWhile p = front ++ rest.rdropWhile p := by
  induction rest using List.reverseRecOn with
  | nil =>
      rw [List.append_nil, List.rdropWhile_nil, List.append_nil, List.rdropWhile_eq_self_iff]
      intro notEmpty
      rw [last _ (List.getLast?_eq_some_getLast notEmpty)]
      exact Bool.false_ne_true
  | append_singleton rest c ih =>
      rw [← List.append_assoc, List.rdropWhile_concat, List.rdropWhile_concat, ih]
      split
      · rfl
      · rw [List.append_assoc]

theorem rdropWhile_of_last {p : Char → Bool} {cs : List Char}
    (last : ∀ c ∈ cs.getLast?, p c = false) : cs.rdropWhile p = cs := by
  have whole : (cs ++ []).rdropWhile p = cs ++ [].rdropWhile p := rdropWhile_append_of_last last
  rwa [List.append_nil, List.rdropWhile_nil, List.append_nil] at whole

/-- Trimming cuts only what follows a piece that neither starts nor ends with a blank. -/
theorem trim_append {front : List Char} (notEmpty : front ≠ [])
    (first : ∀ c ∈ front.head?, isBlank c = false)
    (last : ∀ c ∈ front.getLast?, isBlank c = false) (rest : List Char) :
    trim (front ++ rest) = front ++ rest.rdropWhile isBlank := by
  have start : (front ++ rest).dropWhile isBlank = front ++ rest := by
    cases front with
    | nil => exact absurd rfl notEmpty
    | cons c front => simp [first c rfl]
  rw [trim, start]
  exact rdropWhile_append_of_last last

theorem trim_append_of_visible {front rest : List Char} (notEmpty : front ≠ [])
    (visible : ∀ c ∈ front, isBlank c = false) :
    trim (front ++ rest) = front ++ rest.rdropWhile isBlank :=
  trim_append notEmpty (fun c first => visible c (List.mem_of_mem_head? first))
    (fun c last => visible c (List.mem_of_mem_getLast? last)) rest

theorem head?_rdropWhile {p : Char → Bool} {cs : List Char} {c : Char}
    (first : c ∈ (cs.rdropWhile p).head?) : c ∈ cs.head? := by
  obtain ⟨dropped, whole⟩ := List.rdropWhile_prefix p cs
  rw [← whole, List.head?_append, first]
  rfl

theorem mem_of_mem_trim {cs : List Char} {c : Char} (member : c ∈ trim cs) : c ∈ cs := by
  rw [trim, List.mem_reverse] at member
  have inner := (List.dropWhile_sublist isBlank).subset member
  exact (List.dropWhile_sublist isBlank).subset (List.mem_reverse.mp inner)

theorem mem_trim_of_visible {cs : List Char} {c : Char} (member : c ∈ cs)
    (visible : isBlank c = false) : c ∈ trim cs := by
  have kept : ∀ {ds : List Char}, c ∈ ds → c ∈ ds.dropWhile isBlank := by
    intro ds inside
    rw [← List.takeWhile_append_dropWhile (p := isBlank) (l := ds)] at inside
    rcases List.mem_append.mp inside with dropped | later
    · exact absurd (visible.symm.trans (List.mem_takeWhile_imp dropped)) Bool.false_ne_true
    · exact later
  exact List.mem_reverse.mpr (kept (List.mem_reverse.mpr (kept member)))

theorem isEmpty_trim (cs : List Char) : (trim cs).isEmpty = isBlankText cs := by
  rw [Bool.eq_iff_iff, List.isEmpty_iff, isBlankText, List.all_eq_true, trim,
    List.reverse_eq_nil_iff, List.dropWhile_eq_nil_iff]
  simp only [List.mem_reverse]
  constructor
  · intro blank
    cases rest : cs.dropWhile isBlank with
    | nil => exact List.dropWhile_eq_nil_iff.mp rest
    | cons c later =>
        have notEmpty : cs.dropWhile isBlank ≠ [] := rest ▸ List.cons_ne_nil c later
        have first := blank _ (List.head_mem notEmpty)
        exact absurd (first.symm.trans (List.head_dropWhile_not isBlank notEmpty)) (by decide)
  · intro blank c member
    exact blank c ((List.dropWhile_sublist isBlank).subset member)

theorem IsToken.cut?_space {cs : List Char} (token : IsToken cs) (rest : List Char) :
    cut? (fun c => decide (c = ' ')) (cs ++ ' ' :: rest) = some (cs, rest) := by
  apply cut?_append
  · intro c member
    rw [decide_eq_false_iff_not]
    rintro rfl
    exact Bool.false_ne_true ((token.2 ' ' member).1.symm.trans isBlank_space)
  · decide

theorem IsToken.trim_eq {cs : List Char} (token : IsToken cs) : trim cs = cs :=
  trim_of_no_blank fun c member => (token.2 c member).1

theorem mem_splitOnP {p : Char → Bool} {cs piece : List Char} (member : piece ∈ cs.splitOnP p) :
    ∀ c ∈ piece, p c = false ∧ c ∈ cs := by
  induction cs generalizing piece with
  | nil =>
      rw [List.splitOnP_nil, List.mem_singleton] at member
      subst member
      simp
  | cons c cs ih =>
      rw [List.splitOnP_cons_eq_if_modifyHead] at member
      have later : ∀ {q}, q ∈ cs.splitOnP p → ∀ d ∈ q, p d = false ∧ d ∈ c :: cs :=
        fun found d inside => ⟨(ih found d inside).1, List.mem_cons_of_mem c (ih found d inside).2⟩
      cases holds : p c with
      | true =>
          rw [holds, if_pos rfl] at member
          rcases List.mem_cons.mp member with same | found
          · subst same
            simp
          · exact later found
      | false =>
          rw [holds, if_neg Bool.false_ne_true] at member
          cases pieces : cs.splitOnP p with
          | nil => exact absurd pieces (List.splitOnP_ne_nil p cs)
          | cons head rest =>
              rw [pieces, List.modifyHead_cons] at member
              rcases List.mem_cons.mp member with same | found
              · subst same
                intro d inside
                rcases List.mem_cons.mp inside with here | there
                · exact ⟨here ▸ holds, here ▸ List.mem_cons_self⟩
                · exact later (pieces ▸ List.mem_cons_self) d there
              · exact later (pieces ▸ List.mem_cons_of_mem head found)

theorem ne_of_mem_splitOn {cs piece : List Char} {mark : Char} (member : piece ∈ cs.splitOn mark) :
    ∀ c ∈ piece, c ≠ mark := by
  intro c inside
  rw [List.splitOn_eq_splitOnP] at member
  have := (mem_splitOnP member c inside).1
  simpa using this

theorem mem_words {cs word : List Char} (member : word ∈ words cs) :
    word ≠ [] ∧ ∀ c ∈ word, isBlank c = false ∧ c ∈ cs := by
  rw [words, List.mem_filter] at member
  exact ⟨by simpa using member.2, mem_splitOnP member.1⟩

theorem token_of_mem_words {cs word : List Char} (clear : ∀ c ∈ cs, c ≠ ';')
    (member : word ∈ words cs) : IsToken word := by
  obtain ⟨notEmpty, inside⟩ := mem_words member
  exact ⟨notEmpty, fun c found => ⟨(inside c found).1, clear c (inside c found).2⟩⟩

theorem words_append_space (cs rest : List Char) :
    words (cs ++ ' ' :: rest) = words cs ++ words rest := by
  rw [words, List.splitOnP_append_cons cs rest isBlank_space, List.filter_append]
  rfl

theorem words_space_cons (cs : List Char) : words (' ' :: cs) = words cs := by
  simpa [words] using words_append_space [] cs

theorem words_word {word : List Char} (notEmpty : word ≠ [])
    (clear : ∀ c ∈ word, isBlank c = false) :
    words word = [word] := by
  simp [words, List.splitOnP_eq_singleton clear, notEmpty]

theorem words_joined (ws : List (List Char))
    (clear : ∀ w ∈ ws, w ≠ [] ∧ ∀ c ∈ w, isBlank c = false) :
    words ([' '].intercalate ws) = ws := by
  induction ws with
  | nil => simp [words]
  | cons w rest ih =>
      have first := clear w List.mem_cons_self
      have later : ∀ v ∈ rest, v ≠ [] ∧ ∀ c ∈ v, isBlank c = false :=
        fun v member => clear v (List.mem_cons_of_mem w member)
      cases rest with
      | nil => simpa using words_word first.1 first.2
      | cons v vs =>
          rw [List.intercalate_cons_cons, List.append_assoc, List.singleton_append,
            words_append_space, words_word first.1 first.2, ih later]
          rfl

/-- Segments that are joined by a semicolon and a space come back with the spaces in front. -/
theorem splitOn_joined (segment : List Char) (rest : List (List Char))
    (clear : ∀ s ∈ segment :: rest, ∀ c ∈ s, c ≠ ';') :
    ([';', ' '].intercalate (segment :: rest)).splitOn ';' = segment :: rest.map (' ' :: ·) := by
  induction rest generalizing segment with
  | nil =>
      have first := clear segment List.mem_cons_self
      have absent : ';' ∉ segment := fun member => first ';' member rfl
      simpa using List.splitOn_eq_singleton absent
  | cons next rest ih =>
      have first : ';' ∉ segment := fun member => clear segment List.mem_cons_self _ member rfl
      have later : ∀ s ∈ (' ' :: next) :: rest, ∀ c ∈ s, c ≠ ';' := by
        intro s member c inside
        rcases List.mem_cons.mp member with same | found
        · subst same
          rcases List.mem_cons.mp inside with here | there
          · exact here ▸ by decide
          · exact clear next (by simp) c there
        · exact clear s (by simp [found]) c inside
      have step := ih (' ' :: next) later
      rw [List.intercalate_cons_cons_left] at step
      rw [List.intercalate_cons_cons, List.append_assoc]
      change (segment ++ ';' :: (' ' :: [';', ' '].intercalate (next :: rest))).splitOn ';' = _
      rw [List.splitOn_append_cons_self_of_not_mem first, step, List.map_cons]

end ContentPolicy.Text
