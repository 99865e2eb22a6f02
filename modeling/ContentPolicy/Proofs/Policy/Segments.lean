import Mathlib.Algebra.GroupWithZero.Nat
import ContentPolicy.Policy
import ContentPolicy.Proofs.Text.Pieces

/-!
The segments of a written policy. There is one for each directive, and it starts with the type of
the directive, exactly when no written source holds a semicolon.
-/

namespace ContentPolicy

open Text

namespace Text

theorem mem_joined_iff {c : Char} {separator : List Char} (other : c ∉ separator)
    (ws : List (List Char)) : c ∈ separator.intercalate ws ↔ ∃ w ∈ ws, c ∈ w := by
  induction ws with
  | nil => simp
  | cons w rest ih =>
      cases rest with
      | nil => simp
      | cons v vs =>
          rw [List.intercalate_cons_cons, List.append_assoc, List.mem_append, List.mem_append, ih]
          simp [other]

theorem length_splitOn (cs : List Char) : (cs.splitOn ';').length = cs.count ';' + 1 := by
  induction cs with
  | nil => rfl
  | cons c cs ih =>
      rw [List.splitOn_cons_eq_if_modifyHead, List.count_cons]
      by_cases mark : c = ';'
      · subst mark
        simp [ih]
      · simp [mark, ih]

theorem sorted_texts_perm {α : Type} (render : α → List Char) (xs : List α) :
    (((xs.map fun x => String.ofList (render x)).mergeSort).map String.toList).Perm
      (xs.map render) := by
  have sorted := List.mergeSort_perm (xs.map fun x => String.ofList (render x)) (· ≤ ·)
  have written : (xs.map fun x => String.ofList (render x)).map String.toList = xs.map render := by
    rw [List.map_map]
    exact List.map_congr_left fun x _ => String.toList_ofList
  exact written ▸ sorted.map String.toList

theorem count_joined (segment : List Char) (rest : List (List Char)) :
    ([';', ' '].intercalate (segment :: rest)).count ';' =
      rest.length + ((segment :: rest).map (List.count ';')).sum := by
  induction rest generalizing segment with
  | nil => simp
  | cons next rest ih =>
      rw [List.intercalate_cons_cons, List.append_assoc, List.count_append, List.count_append, ih]
      simp only [List.map_cons, List.sum_cons, List.length_cons]
      have mark : List.count ';' [';', ' '] = 1 := rfl
      omega

end Text

namespace Whitelist

theorem texts_perm (w : Whitelist) :
    (((w.toList.map Source.text).mergeSort).map String.toList).Perm
      (w.toList.map Source.render) :=
  sorted_texts_perm Source.render w.toList

theorem mem_renderSources_iff {c : Char} (separates : c ∉ [' ']) (keyword : c ∉ "'none'".toList)
    (w : Whitelist) : c ∈ w.renderSources ↔ ∃ s ∈ w, c ∈ s.render := by
  rw [renderSources]
  split
  · rename_i empty
    have absent : w.toList = [] := List.isEmpty_iff.mp empty
    refine iff_of_false keyword ?_
    rintro ⟨s, member, _⟩
    rw [SortedSet.mem_def, absent] at member
    cases member
  · rw [mem_joined_iff separates]
    constructor
    · rintro ⟨text, member, inside⟩
      obtain ⟨s, source, rfl⟩ := List.mem_map.mp (w.texts_perm.mem_iff.mp member)
      exact ⟨s, source, inside⟩
    · rintro ⟨s, source, inside⟩
      exact ⟨s.render, w.texts_perm.mem_iff.mpr (List.mem_map_of_mem source), inside⟩

end Whitelist

theorem Directive.render_regular (type : String) (w : Whitelist) :
    (Directive.regular type w).render = type.toList ++ ' ' :: w.renderSources := rfl

namespace Policy

theorem texts_perm (p : Policy) :
    (((p.directives.map Directive.text).mergeSort).map String.toList).Perm
      (p.directives.map Directive.render) :=
  sorted_texts_perm Directive.render p.directives

theorem render_segments {p : Policy} (isValid : p.isInvalid = false)
    (notEmpty : p.hasNoDirective = false) :
    ∃ first rest, (first :: rest).Perm (p.directives.map Directive.render) ∧
      p.render = [';', ' '].intercalate (first :: rest) := by
  have perm := p.texts_perm
  cases p with
  | invalid => cases isValid
  | valid m =>
      cases texts :
        ((Policy.valid m).directives.map Directive.text).mergeSort.map String.toList with
      | nil =>
          rw [texts] at perm
          have length := perm.length_eq
          have filled : m.entries ≠ [] := by
            intro empty
            rw [hasNoDirective, whitelists, SortedMap.isEmpty, empty] at notEmpty
            cases notEmpty
          rw [List.length_map, directives, List.length_map] at length
          exact absurd (List.length_eq_zero_iff.mp length.symm) filled
      | cons first rest =>
          rw [texts] at perm
          exact ⟨first, rest, perm, congrArg [';', ' '].intercalate texts⟩

/-- The first words of the segments of a text. -/
def segmentTypes (text : List Char) : List (Option String) :=
  (text.splitOn ';').map fun segment => (words segment).head?.map String.ofList

theorem head?_words_written {type : String} (token : IsToken type.toList) (w : Whitelist) :
    (words (Directive.regular type w).render).head? = some type.toList := by
  rw [Directive.render_regular, words_append_space,
    words_word token.1 fun c inside => (token.2 c inside).1]
  rfl

theorem semicolon_mem_directive {type : String} (token : IsToken type.toList) (w : Whitelist) :
    ';' ∈ (Directive.regular type w).render ↔ ∃ s ∈ w, ';' ∈ s.render := by
  have clear : ';' ∉ type.toList := fun inside => (token.2 ';' inside).2 rfl
  have mark : ';' ≠ ' ' := by decide
  rw [Directive.render_regular, List.mem_append, List.mem_cons,
    Whitelist.mem_renderSources_iff (by decide) (by decide)]
  simp [clear, mark]

theorem segments_of_clear {p : Policy} (isValid : p.isInvalid = false)
    (notEmpty : p.hasNoDirective = false) (clear : ∀ d ∈ p.directives, ';' ∉ d.render) :
    ∃ first rest, (first :: rest).Perm (p.directives.map Directive.render) ∧
      p.render.splitOn ';' = first :: rest.map (' ' :: ·) := by
  obtain ⟨first, rest, perm, written⟩ := render_segments isValid notEmpty
  refine ⟨first, rest, perm, ?_⟩
  rw [written]
  apply splitOn_joined
  intro segment member c inside
  obtain ⟨d, found, rfl⟩ := List.mem_map.mp (perm.mem_iff.mp member)
  rintro rfl
  exact clear d found inside

theorem segmentTypes_of_clear {m : SortedMap String Whitelist} (notEmpty : m.isEmpty = false)
    (tokens : ∀ e ∈ m.entries, IsToken e.1.toList)
    (clear : ∀ d ∈ (Policy.valid m).directives, ';' ∉ d.render) :
    (segmentTypes (Policy.valid m).render).Perm (m.keys.map some) := by
  obtain ⟨first, rest, perm, split⟩ := segments_of_clear (p := .valid m) rfl notEmpty clear
  have spaces : segmentTypes (Policy.valid m).render =
      (first :: rest).map fun segment => (words segment).head?.map String.ofList := by
    rw [segmentTypes, split, List.map_cons, List.map_cons, List.map_map]
    simp only [Function.comp_def, words_space_cons]
  have types : ((Policy.valid m).directives.map Directive.render).map
      (fun segment => (words segment).head?.map String.ofList) = m.keys.map some := by
    rw [directives, List.map_map, List.map_map, SortedMap.keys, List.map_map]
    apply List.map_congr_left
    intro e member
    have word := head?_words_written (tokens e member) e.2
    simp only [Function.comp_apply, word, Option.map_some, String.ofList_toList]
  rw [spaces, ← types]
  exact perm.map _

/-- Each directive is written as one segment that starts with its type, exactly when no source holds
a semicolon. -/
theorem segmentTypes_render_iff {m : SortedMap String Whitelist} (notEmpty : m.isEmpty = false)
    (tokens : ∀ e ∈ m.entries, IsToken e.1.toList) :
    (segmentTypes (Policy.valid m).render).Perm (m.keys.map some) ↔
      ∀ e ∈ m.entries, ∀ s ∈ e.2, ';' ∉ s.render := by
  constructor
  · intro same e member s source inside
    obtain ⟨first, rest, perm, written⟩ := render_segments (p := .valid m) rfl notEmpty
    have size : (first :: rest).length = m.size := by
      rw [perm.length_eq, List.length_map, directives, List.length_map]
      rfl
    -- There are as many segments as directives, so no directive adds a semicolon of its own.
    have noMarks : ((first :: rest).map (List.count ';')).sum = 0 := by
      have length := same.length_eq
      rw [segmentTypes, List.length_map, List.length_map, SortedMap.keys, List.length_map, written,
        length_splitOn, count_joined] at length
      rw [SortedMap.size, List.length_cons] at size
      omega
    have text : (Directive.regular e.1 e.2).render ∈ first :: rest := by
      apply perm.mem_iff.mpr
      have directive := List.mem_map_of_mem (f := fun e => Directive.regular e.1 e.2) member
      exact List.mem_map_of_mem directive
    have zero := List.sum_eq_zero_iff_forall_eq_nat.mp noMarks _ (List.mem_map_of_mem text)
    exact List.count_eq_zero.mp zero ((semicolon_mem_directive (tokens e member) e.2).mpr
      ⟨s, source, inside⟩)
  · intro clear
    apply segmentTypes_of_clear notEmpty tokens
    intro d member inside
    obtain ⟨e, entry, rfl⟩ := List.mem_map.mp member
    obtain ⟨s, source, mark⟩ := (semicolon_mem_directive (tokens e entry) e.2).mp inside
    exact clear e entry s source mark

end Policy

end ContentPolicy
