import Mathlib.Data.List.Nodup
import ContentPolicy.Proofs.Policy.RoundTrip
import ContentPolicy.Proofs.Source.Injectivity

/-!
The basic policies that make up a policy: there are no two alike among them, they say which policy
they make up, and those of policies that were read differ in their written forms.
-/

namespace ContentPolicy

open Text

namespace SortedSet

theorem nodup {α : Type} [Ord α] [Std.ReflOrd α] (s : SortedSet α) : s.toList.Nodup := by
  apply s.ascending.imp
  rintro a b before rfl
  exact absurd (Std.ReflCmp.compare_self.symm.trans before) (by decide)

theorem singleton_injective {α : Type} [Ord α] {a b : α} (same : singleton a = singleton b) :
    a = b := (List.cons.inj (congrArg toList same)).1

theorem singleton_ne_empty {α : Type} [Ord α] (a : α) : singleton a ≠ ∅ :=
  fun same => List.cons_ne_nil a [] (congrArg toList same)

end SortedSet

namespace SortedMap

theorem singleton_inj {κ ν : Type} [Ord κ] {k k' : κ} {v v' : ν} :
    singleton k v = singleton k' v' ↔ k = k' ∧ v = v' := by
  constructor
  · intro same
    exact Prod.mk.inj (List.cons.inj (congrArg entries same)).1
  · rintro ⟨rfl, rfl⟩
    rfl

theorem singleton_ne_empty {κ ν : Type} [Ord κ] (k : κ) (v : ν) : singleton k v ≠ ∅ :=
  fun same => List.cons_ne_nil (k, v) [] (congrArg entries same)

end SortedMap

namespace Whitelist

theorem parts_eq (w : Whitelist) :
    w.parts = if w.isEmpty then [∅] else w.toList.map .singleton := by
  obtain ⟨sources, sorted⟩ := w
  match sources with
  | [] => rfl
  | [s] => rfl
  | s :: t :: rest => exact if_neg (by simp [SortedSet.size])

theorem mem_parts_iff {w part : Whitelist} :
    part ∈ w.parts ↔ w.isEmpty = true ∧ part = ∅ ∨ ∃ s ∈ w, part = .singleton s := by
  rw [parts_eq]
  by_cases empty : w.isEmpty = true
  · have noSource : ∀ s, s ∉ w := by
      intro s member
      rw [SortedSet.mem_def, List.isEmpty_iff.mp empty] at member
      cases member
    simp [empty, noSource]
  · simp [empty, SortedSet.mem_def, eq_comm]

theorem singleton_mem_parts_iff {w : Whitelist} {s : Source} :
    SortedSet.singleton s ∈ w.parts ↔ s ∈ w := by
  rw [mem_parts_iff]
  constructor
  · rintro (⟨_, empty⟩ | ⟨t, member, same⟩)
    · exact absurd empty (SortedSet.singleton_ne_empty s)
    · rw [SortedSet.singleton_injective same]
      exact member
  · exact fun member => .inr ⟨s, member, rfl⟩

theorem eq_of_parts {v w : Whitelist} (same : ∀ part, part ∈ v.parts ↔ part ∈ w.parts) : v = w := by
  apply SortedSet.ext_mem
  intro s
  rw [← singleton_mem_parts_iff, same, singleton_mem_parts_iff]

theorem parts_nodup (w : Whitelist) : w.parts.Nodup := by
  rw [parts_eq]
  split
  · exact List.nodup_singleton ∅
  · exact w.nodup.map fun s t same => SortedSet.singleton_injective same

theorem exists_part (w : Whitelist) : ∃ part, part ∈ w.parts := by
  rw [parts_eq]
  split
  · exact ⟨∅, List.mem_singleton_self ∅⟩
  · rename_i notEmpty
    have listed : w.toList ≠ [] := by simpa [SortedSet.isEmpty] using notEmpty
    obtain ⟨s, member⟩ := List.exists_mem_of_ne_nil w.toList listed
    exact ⟨.singleton s, List.mem_map_of_mem member⟩

end Whitelist

namespace Policy

variable {m n : SortedMap String Whitelist}

theorem basics_of_empty (empty : m.isEmpty = true) : (valid m).basics = [.empty] := by
  have isEmpty : m = ∅ := SortedMap.ext_get? fun type =>
    ((SortedMap.isEmpty_iff m).mp empty type).trans (SortedMap.get?_empty type).symm
  rw [isEmpty]
  rfl

theorem basics_of_some (notEmpty : m.isEmpty = false) :
    (valid m).basics =
      m.entries.flatMap fun e => e.2.parts.map fun part => .valid (.singleton e.1 part) := by
  rw [basics, notEmpty, if_neg Bool.false_ne_true]

theorem single_mem_basics_iff {type : String} {part : Whitelist} :
    valid (.singleton type part) ∈ (valid m).basics ↔
      ∃ w, m.get? type = some w ∧ part ∈ w.parts := by
  cases empty : m.isEmpty with
  | true =>
      have absent := (SortedMap.isEmpty_iff m).mp empty type
      rw [basics_of_empty empty, absent, List.mem_singleton]
      refine iff_of_false ?_ (fun ⟨_, found, _⟩ => nomatch found)
      exact fun same => SortedMap.singleton_ne_empty type part (Policy.valid.inj same)
  | false =>
      rw [basics_of_some empty, List.mem_flatMap]
      constructor
      · rintro ⟨e, entry, member⟩
        obtain ⟨inner, inside, same⟩ := List.mem_map.mp member
        obtain ⟨rfl, rfl⟩ := SortedMap.singleton_inj.mp (Policy.valid.inj same)
        exact ⟨e.2, SortedMap.get?_of_mem entry, inside⟩
      · rintro ⟨w, found, inside⟩
        exact ⟨(type, w), (SortedMap.get?_eq_some_iff m type w).mp found,
          List.mem_map_of_mem inside⟩

theorem basics_cases {b : Policy} (member : b ∈ (valid m).basics) :
    b = .empty ∨ ∃ type w part, m.get? type = some w ∧ part ∈ w.parts ∧
      b = .valid (.singleton type part) := by
  cases empty : m.isEmpty with
  | true =>
      rw [basics_of_empty empty] at member
      exact .inl (List.mem_singleton.mp member)
  | false =>
      rw [basics_of_some empty] at member
      obtain ⟨e, entry, inside⟩ := List.mem_flatMap.mp member
      obtain ⟨part, isPart, rfl⟩ := List.mem_map.mp inside
      exact .inr ⟨e.1, e.2, part, SortedMap.get?_of_mem entry, isPart, rfl⟩

theorem basics_nodup (p : Policy) : p.basics.Nodup := by
  cases p with
  | invalid => exact List.nodup_nil
  | valid m =>
      cases empty : m.isEmpty with
      | true =>
          rw [basics_of_empty empty]
          exact List.nodup_singleton _
      | false =>
          rw [basics_of_some empty, List.nodup_flatMap]
          constructor
          · intro e _
            refine e.2.parts_nodup.map fun a b same => ?_
            exact (SortedMap.singleton_inj.mp (Policy.valid.inj same)).2
          -- Parts of two directives differ in their types.
          · refine (List.pairwise_map.mp m.ascending).imp ?_
            intro e f before
            refine List.disjoint_left.mpr ?_
            rintro b first second
            obtain ⟨part, _, rfl⟩ := List.mem_map.mp first
            obtain ⟨other, _, same⟩ := List.mem_map.mp second
            have types := (SortedMap.singleton_inj.mp (Policy.valid.inj same)).1
            rw [types] at before
            exact absurd (Std.ReflCmp.compare_self.symm.trans before) (by decide)

theorem mem_basics_of_mem_compareWith {p q b : Policy}
    (member : b ∈ (p.compareWith q).common ++ (p.compareWith q).onlyLeft ++
      (p.compareWith q).onlyRight) :
    b ∈ p.basics ∨ b ∈ q.basics := by
  rw [compareWith] at member
  split at member
  · cases member
  · rcases List.mem_append.mp member with inLeft | inRight
    · rcases List.mem_append.mp inLeft with inBoth | alone
      · exact .inl (List.mem_of_mem_filter inBoth)
      · exact .inl (List.mem_of_mem_filter alone)
    · exact .inr (List.mem_of_mem_filter inRight)

theorem eq_of_basics (same : ∀ b, b ∈ (valid m).basics ↔ b ∈ (valid n).basics) : m = n := by
  have parts : ∀ type part, (∃ w, m.get? type = some w ∧ part ∈ w.parts) ↔
      ∃ w, n.get? type = some w ∧ part ∈ w.parts := by
    intro type part
    rw [← single_mem_basics_iff, same, single_mem_basics_iff]
  apply SortedMap.ext_get?
  intro type
  cases found : m.get? type with
  | none =>
      cases other : n.get? type with
      | none => rfl
      | some w =>
          obtain ⟨part, isPart⟩ := w.exists_part
          obtain ⟨v, present, _⟩ := (parts type part).mpr ⟨w, other, isPart⟩
          rw [found] at present
          cases present
  | some v =>
      obtain ⟨part, isPart⟩ := v.exists_part
      obtain ⟨w, other, _⟩ := (parts type part).mp ⟨v, found, isPart⟩
      have whole : v = w := Whitelist.eq_of_parts fun part => by
        simpa [found, other] using parts type part
      rw [other, whole]

/-- The basic policies of policies that can be read: one token for the type, and a source that was
read, or none. -/
inductive IsBasicPart (known : SchemePorts) : Policy → Prop
  | empty : IsBasicPart known .empty
  | none {type : String} (token : IsToken type.toList) :
      IsBasicPart known (.valid (.singleton type ∅))
  | source {type : String} {s : Source} (token : IsToken type.toList)
      (readable : s.Readable known) : IsBasicPart known (.valid (.singleton type (.singleton s)))

theorem render_valid (m : SortedMap String Whitelist) :
    (valid m).render = [';', ' '].intercalate
      ((((valid m).directives.map Directive.text).mergeSort).map String.toList) := rfl

theorem render_empty : empty.render = [] := by
  have directives : (valid ∅).directives = [] := rfl
  rw [empty, render_valid, directives, List.map_nil, List.mergeSort_nil, List.map_nil,
    List.intercalate_nil]

theorem render_single (type : String) (part : Whitelist) :
    (valid (.singleton type part)).render = type.toList ++ ' ' :: part.renderSources := by
  have directives : (valid (.singleton type part)).directives = [.regular type part] := rfl
  rw [render_valid, directives, List.map_singleton, List.mergeSort_singleton, List.map_singleton,
    List.intercalate_singleton, Directive.text, String.toList_ofList, Directive.render_regular]

theorem render_none (type : String) :
    (valid (.singleton type ∅)).render = type.toList ++ ' ' :: "'none'".toList := by
  have noSource : SortedSet.isEmpty (∅ : Whitelist) = true := rfl
  rw [render_single, Whitelist.renderSources, if_pos noSource]

theorem render_source (type : String) (s : Source) :
    (valid (.singleton type (.singleton s))).render = type.toList ++ ' ' :: s.render := by
  have sources : Whitelist.renderSources (.singleton s) = s.render := by
    have notEmpty : (SortedSet.singleton s).isEmpty = false := rfl
    have listed : (SortedSet.singleton s).toList = [s] := rfl
    rw [Whitelist.renderSources, notEmpty, if_neg Bool.false_ne_true, listed, List.map_singleton,
      List.mergeSort_singleton, List.map_singleton, List.intercalate_singleton, Source.text,
      String.toList_ofList]
  rw [render_single, sources]

/-- A type and what follows the first space can be told from a written directive. -/
theorem type_rest_inj {type type' : String} {rest rest' : List Char}
    (token : IsToken type.toList) (token' : IsToken type'.toList)
    (same : type.toList ++ ' ' :: rest = type'.toList ++ ' ' :: rest') :
    type = type' ∧ rest = rest' := by
  have whole := token.cut?_space rest
  rw [same, token'.cut?_space rest'] at whole
  obtain ⟨types, rests⟩ := Prod.mk.inj (Option.some.inj whole)
  exact ⟨String.toList_inj.mp types.symm, rests.symm⟩

theorem text_injective {known : SchemePorts} (named : known.Named) {a b : Policy}
    (first : a.IsBasicPart known) (second : b.IsBasicPart known) (same : a.text = b.text) :
    a = b := by
  have renders : a.render = b.render := by
    rw [text, text, ← String.toList_inj, String.toList_ofList, String.toList_ofList] at same
    exact same
  have keyword : ∀ {s : Source}, s.Readable known → s.render ≠ "'none'".toList := by
    intro s readable written
    have isNone := Source.isNone_render named readable
    rw [written] at isNone
    exact absurd isNone (by decide)
  have written : ∀ {type : String} {rest : List Char},
      empty.render ≠ type.toList ++ ' ' :: rest := by
    intro type rest same
    simp [render_empty] at same
  cases first with
  | empty =>
      cases second with
      | empty => rfl
      | none token => exact absurd (renders.trans (render_none _)) written
      | source token readable => exact absurd (renders.trans (render_source _ _)) written
  | none token =>
      rw [render_none] at renders
      cases second with
      | empty => exact absurd renders.symm written
      | none token' =>
          rw [render_none] at renders
          rw [(type_rest_inj token token' renders).1]
      | source token' readable =>
          rw [render_source] at renders
          exact absurd (type_rest_inj token token' renders).2.symm (keyword readable)
  | source token readable =>
      rw [render_source] at renders
      cases second with
      | empty => exact absurd renders.symm written
      | none token' =>
          rw [render_none] at renders
          exact absurd (type_rest_inj token token' renders).2 (keyword readable)
      | source token' readable' =>
          rw [render_source] at renders
          obtain ⟨rfl, rest⟩ := type_rest_inj token token' renders
          rw [Source.render_injective named readable readable' rest]

theorem isBasicPart_of_mem_basics {p : PolicyParser} (readable : p.Readable m) {b : Policy}
    (member : b ∈ (valid m).basics) : b.IsBasicPart p.directive.knownSchemes := by
  rcases basics_cases member with rfl | ⟨type, w, part, found, isPart, rfl⟩
  · exact .empty
  · have entry := (SortedMap.get?_eq_some_iff m type w).mp found
    have token := (readable.plain _ entry).token
    rcases Whitelist.mem_parts_iff.mp isPart with ⟨_, rfl⟩ | ⟨s, source, rfl⟩
    · exact .none token
    · exact .source token (readable.sources _ entry s source)

end Policy

end ContentPolicy
