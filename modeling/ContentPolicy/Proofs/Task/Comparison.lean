import ContentPolicy.Proofs.Policy.Comparison
import ContentPolicy.Proofs.Settings.Loading
import ContentPolicy.Proofs.Settings.Standard
import ContentPolicy.Task

/-!
Comparing two policies. A receipt names basic policies by their written forms, and different basic
policies have different ones; so its lists hold no name twice, and each side can be put together
again from what both have and what it has alone.
-/

namespace ContentPolicy

namespace Text

theorem le_trans_of_decide (a b c : String) (first : decide (a ≤ b) = true)
    (second : decide (b ≤ c) = true) : decide (a ≤ c) = true :=
  decide_eq_true (String.le_trans (of_decide_eq_true first) (of_decide_eq_true second))

theorem le_total_of_decide (a b : String) : (decide (a ≤ b) || decide (b ≤ a)) = true := by
  rcases String.le_total a b with before | after
  · simp [before]
  · simp [after]

theorem pairwise_mergeSort (xs : List String) : xs.mergeSort.Pairwise (· ≤ ·) :=
  (List.pairwise_mergeSort le_trans_of_decide le_total_of_decide xs).imp of_decide_eq_true

theorem pairwise_merge {xs ys : List String} (sortedXs : xs.Pairwise (· ≤ ·))
    (sortedYs : ys.Pairwise (· ≤ ·)) : (xs.merge ys).Pairwise (· ≤ ·) :=
  (List.pairwise_merge le_trans_of_decide le_total_of_decide xs ys (sortedXs.imp decide_eq_true)
    (sortedYs.imp decide_eq_true)).imp of_decide_eq_true

theorem eq_of_sorted_perm {xs ys : List String} (sortedXs : xs.Pairwise (· ≤ ·))
    (sortedYs : ys.Pairwise (· ≤ ·)) (perm : xs.Perm ys) : xs = ys :=
  perm.eq_of_pairwise (fun _ _ _ _ => String.le_antisymm) sortedXs sortedYs

end Text

namespace Settings

open Text

variable {ps qs : List Policy}

theorem sortedTexts_perm (ps : List Policy) : (sortedTexts ps).Perm (ps.map Policy.text) :=
  List.mergeSort_perm _ _

theorem sortedTexts_congr (perm : ps.Perm qs) : sortedTexts ps = sortedTexts qs := by
  apply eq_of_sorted_perm (pairwise_mergeSort _) (pairwise_mergeSort _)
  calc
    (sortedTexts ps).Perm (ps.map Policy.text) := sortedTexts_perm ps
    _ |>.Perm (qs.map Policy.text) := perm.map Policy.text
    _ |>.Perm (sortedTexts qs) := (sortedTexts_perm qs).symm

theorem sortedTexts_merge (ps qs : List Policy) :
    (sortedTexts ps).merge (sortedTexts qs) = sortedTexts (ps ++ qs) := by
  have merged : ((sortedTexts ps).merge (sortedTexts qs)).Perm (sortedTexts ps ++ sortedTexts qs) :=
    List.merge_perm_append _
  have whole : (sortedTexts ps ++ sortedTexts qs).Perm ((ps ++ qs).map Policy.text) := by
    rw [List.map_append]
    exact (sortedTexts_perm ps).append (sortedTexts_perm qs)
  apply eq_of_sorted_perm
    (pairwise_merge (pairwise_mergeSort _) (pairwise_mergeSort _)) (pairwise_mergeSort _)
  exact merged.trans (whole.trans (sortedTexts_perm (ps ++ qs)).symm)

theorem map_text_mergeSort (ps : List Policy) :
    (ps.mergeSort fun a b => a.text ≤ b.text).map Policy.text = sortedTexts ps := by
  apply eq_of_sorted_perm _ (pairwise_mergeSort _)
  · exact ((List.mergeSort_perm ps _).map Policy.text).trans (sortedTexts_perm ps).symm
  · have sorted := List.pairwise_mergeSort
      (fun a b c => le_trans_of_decide (Policy.text a) b.text c.text)
      (fun a b => le_total_of_decide a.text b.text) ps
    exact List.pairwise_map.mpr (sorted.imp of_decide_eq_true)

theorem sortedTexts_singleton (p : Policy) : sortedTexts [p] = [p.text] := by
  rw [sortedTexts, List.map_singleton, List.mergeSort_singleton]

theorem sortedTexts_eq_nil_iff : sortedTexts ps = [] ↔ ps = [] := by
  rw [← List.length_eq_zero_iff, (sortedTexts_perm ps).length_eq, List.length_map,
    List.length_eq_zero_iff]

end Settings

namespace Settings

theorem isBasicPart_of_parse {profile : Profile} {strict : Bool} {text : String}
    {m : SortedMap String Whitelist}
    (read : (standard profile strict).policy.parse text = .valid m) {b : Policy}
    (member : b ∈ (Policy.valid m).basics) : b.IsBasicPart .standard := by
  cases empty : m.isEmpty with
  | true =>
      rw [Policy.basics_of_empty empty] at member
      rw [List.mem_singleton.mp member]
      exact .empty
  | false =>
      have readable := PolicyParser.readable_of_read SchemePorts.standard_named
        (PolicyParser.standard_plain_of_listed strict) read empty
      exact Policy.isBasicPart_of_mem_basics readable member

theorem readPolicy_eq_ok_iff {s : Settings} {text : String} {p : Policy} :
    s.readPolicy text = .ok p ↔ s.policy.parse text = p ∧ p.isInvalid = false := by
  rw [readPolicy]
  by_cases invalid : (s.policy.parse text).isInvalid = true
  · simp only [invalid, if_true]
    refine iff_of_false nofun ?_
    rintro ⟨rfl, valid⟩
    exact Bool.false_ne_true (valid.symm.trans invalid)
  · simp only [invalid, Bool.false_eq_true, if_false, Except.ok.injEq]
    constructor
    · rintro rfl
      exact ⟨rfl, Bool.eq_false_iff.mpr invalid⟩
    · exact fun both => both.1

theorem compare_eq_ok {s : Settings} {left right : String} {r : ComparisonReceipt}
    (accepted : s.compare left right = .ok r) :
    ∃ m n, s.policy.parse left = .valid m ∧ s.policy.parse right = .valid n ∧
      r.common = sortedTexts ((Policy.valid m).compareWith (.valid n)).common ∧
      r.onlyLeft = sortedTexts ((Policy.valid m).compareWith (.valid n)).onlyLeft ∧
      r.onlyRight = sortedTexts ((Policy.valid m).compareWith (.valid n)).onlyRight := by
  obtain ⟨p, leftRead, rest⟩ := bind_eq_ok_iff.mp accepted
  obtain ⟨q, rightRead, made⟩ := bind_eq_ok_iff.mp rest
  obtain ⟨leftParsed, leftValid⟩ := readPolicy_eq_ok_iff.mp leftRead
  obtain ⟨rightParsed, rightValid⟩ := readPolicy_eq_ok_iff.mp rightRead
  obtain rfl := Except.ok.inj made
  cases p with
  | invalid => cases leftValid
  | valid m =>
      cases q with
      | invalid => cases rightValid
      | valid n => exact ⟨m, n, leftParsed, rightParsed, rfl, rfl, rfl⟩

theorem normalize_of_parse {s : Settings} {text : String} {m : SortedMap String Whitelist}
    (parsed : s.policy.parse text = .valid m) :
    s.normalize text false =
      .ok ⟨.valid m, (Policy.valid m).basics.mergeSort fun a b => a.text ≤ b.text⟩ := by
  have read : s.readPolicy text = .ok (.valid m) := readPolicy_eq_ok_iff.mpr ⟨parsed, rfl⟩
  rw [normalize, read]
  rfl

theorem merge_onlyLeft (m n : SortedMap String Whitelist) :
    (sortedTexts ((Policy.valid m).compareWith (.valid n)).common).merge
        (sortedTexts ((Policy.valid m).compareWith (.valid n)).onlyLeft) =
      sortedTexts (Policy.valid m).basics := by
  rw [sortedTexts_merge]
  exact sortedTexts_congr (Policy.filter_basics_perm _ _)

theorem merge_onlyRight (m n : SortedMap String Whitelist) :
    (sortedTexts ((Policy.valid m).compareWith (.valid n)).common).merge
        (sortedTexts ((Policy.valid m).compareWith (.valid n)).onlyRight) =
      sortedTexts (Policy.valid n).basics := by
  rw [sortedTexts_merge]
  apply sortedTexts_congr
  exact ((Policy.filter_basics_comm _ _).append_right _).trans (Policy.filter_basics_perm _ _)

/-- Where written forms tell policies apart, the sorted forms of distinct policies are distinct. -/
theorem sortedTexts_nodup {ps qs rs : List Policy} (distinct : (ps ++ qs ++ rs).Nodup)
    (apart : ∀ a ∈ ps ++ qs ++ rs, ∀ b ∈ ps ++ qs ++ rs, a.text = b.text → a = b) :
    (sortedTexts ps ++ sortedTexts qs ++ sortedTexts rs).Nodup := by
  have perm : (sortedTexts ps ++ sortedTexts qs ++ sortedTexts rs).Perm
      ((ps ++ qs ++ rs).map Policy.text) := by
    rw [List.map_append, List.map_append]
    exact ((sortedTexts_perm ps).append (sortedTexts_perm qs)).append (sortedTexts_perm rs)
  exact perm.nodup_iff.mpr (distinct.map_on apart)

/-- The lists of a comparison between two texts: no string stands in them twice, what both policies
have and what one has alone merge to the basic policies of the one, and there is nothing that one
has alone exactly when both texts are read as the same policy. -/
theorem compare_partitions_basics (profile : Profile) (strict : Bool) {left right : String}
    {r : ComparisonReceipt}
    (accepted : (standard profile strict).compare left right = .ok r) :
    (r.common ++ r.onlyLeft ++ r.onlyRight).Nodup ∧
      (∃ n, (standard profile strict).normalize left false = .ok n ∧
        r.common.merge r.onlyLeft = n.basics.map Policy.text) ∧
      (∃ n, (standard profile strict).normalize right false = .ok n ∧
        r.common.merge r.onlyRight = n.basics.map Policy.text) ∧
      (r.onlyLeft = [] ∧ r.onlyRight = [] ↔
        (standard profile strict).policy.parse left =
          (standard profile strict).policy.parse right) := by
  obtain ⟨m, n, leftParsed, rightParsed, common, onlyLeft, onlyRight⟩ := compare_eq_ok accepted
  rw [common, onlyLeft, onlyRight, leftParsed, rightParsed, Policy.valid.injEq]
  constructor
  · refine sortedTexts_nodup (Policy.compareWith_nodup _ _) fun a first b second same => ?_
    have isPart : ∀ {c : Policy}, c ∈ (Policy.valid m).basics ∨ c ∈ (Policy.valid n).basics →
        c.IsBasicPart .standard := by
      rintro c (inLeft | inRight)
      · exact isBasicPart_of_parse leftParsed inLeft
      · exact isBasicPart_of_parse rightParsed inRight
    exact Policy.text_injective SchemePorts.standard_named
      (isPart (Policy.mem_basics_of_mem_compareWith first))
      (isPart (Policy.mem_basics_of_mem_compareWith second)) same
  constructor
  · refine ⟨_, normalize_of_parse leftParsed, ?_⟩
    rw [merge_onlyLeft, map_text_mergeSort]
  constructor
  · refine ⟨_, normalize_of_parse rightParsed, ?_⟩
    rw [merge_onlyRight, map_text_mergeSort]
  · rw [sortedTexts_eq_nil_iff, sortedTexts_eq_nil_iff]
    exact Policy.only_eq_nil_iff

theorem compare_of_parse {s : Settings} {left right : String} {m n : SortedMap String Whitelist}
    (leftParsed : s.policy.parse left = .valid m) (rightParsed : s.policy.parse right = .valid n) :
    s.compare left right =
      .ok {
        left := (Policy.valid m).text
        right := (Policy.valid n).text
        common := sortedTexts ((Policy.valid m).compareWith (.valid n)).common
        onlyLeft := sortedTexts ((Policy.valid m).compareWith (.valid n)).onlyLeft
        onlyRight := sortedTexts ((Policy.valid m).compareWith (.valid n)).onlyRight } := by
  have leftRead : s.readPolicy left = .ok (.valid m) := readPolicy_eq_ok_iff.mpr ⟨leftParsed, rfl⟩
  have rightRead : s.readPolicy right = .ok (.valid n) := readPolicy_eq_ok_iff.mpr ⟨rightParsed, rfl⟩
  rw [compare, leftRead, rightRead]
  rfl

/-- The policies share a source, and the left one has another directive. -/
theorem compare_partitions_basics_styles :
    let s := standard .strict true
    let left := "img-src 'self'; style-src *"
    let right := "img-src 'self'"
    ∃ r, s.compare left right = .ok r ∧
      (r.common = ["img-src 'self'"] ∧ r.onlyLeft = ["style-src *"] ∧ r.onlyRight = []) ∧
        (r.common ++ r.onlyLeft ++ r.onlyRight).Nodup ∧
          ∃ n, s.normalize left false = .ok n ∧
            n.basics.map Policy.text = ["img-src 'self'", "style-src *"] := by
  intro s left right
  let m := (s.policy.parse left).whitelists
  let n := (s.policy.parse right).whitelists
  have leftParsed : s.policy.parse left = .valid m := by decide +kernel
  have rightParsed : s.policy.parse right = .valid n := by decide
  let shared : Policy := .valid (.singleton "img-src" (.singleton .self))
  let alone : Policy := .valid (.singleton "style-src" (.singleton .any))
  have lists : (Policy.valid m).compareWith (.valid n) = ⟨[shared], [alone], []⟩ := by
    decide +kernel
  have sharedText : shared.text = "img-src 'self'" := by decide +kernel
  have aloneText : alone.text = "style-src *" := by decide +kernel
  have noTexts : sortedTexts [] = [] := sortedTexts_eq_nil_iff.mpr rfl
  have accepted := compare_of_parse leftParsed rightParsed
  obtain ⟨distinct, ⟨normal, normalized, merged⟩, _⟩ := compare_partitions_basics .strict true accepted
  refine ⟨_, accepted, ?_, distinct, normal, normalized, ?_⟩
  · simp only [lists, sortedTexts_singleton, sharedText, aloneText, noTexts, and_self]
  · rw [← merged]
    have order : decide ("img-src 'self'" ≤ "style-src *") = true := by decide
    simp only [lists, sortedTexts_singleton, sharedText, aloneText, List.cons_merge_cons, order,
      if_true, List.nil_merge]

end Settings

end ContentPolicy
