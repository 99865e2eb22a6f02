import ContentPolicy.Proofs.Report.Reading

/-!
Fields that stand for the document's URI. While the members of an object are gone through, such a
field only leaves its name in the list of those that wait. Afterwards a strict reader gives all of
them what the document's own field holds by then, so neither the order of the members counts, nor
what else came under these names, the document's own name included.
-/

namespace ContentPolicy

namespace ReportParser

variable {p : ReportParser} {key : String} {member : String × Json} {draft draft' : Draft}

theorem readMember_self {text : String} (listed : key ∈ p.uriKeys) (self : isSelf text = true) :
    p.readMember key (.string text) = .document := by
  have kind : p.kind? key = some .uri := if_pos listed
  simp [readMember, kind, self]

theorem waiting_of_addMember (step : p.addMember draft member = some draft')
    (waits : key ∈ draft.2) : key ∈ draft'.2 := by
  rcases addMember_cases step with ⟨field, _, rfl⟩ | ⟨_, rfl⟩ | rfl
  · exact waits
  · exact List.mem_append_left _ waits
  · exact waits

theorem addMember_of_document (step : p.addMember draft member = some draft')
    (document : p.readMember (p.currentKey member.1) member.2 = .document) :
    p.currentKey member.1 ∈ draft'.2 := by
  simp only [addMember, document] at step
  cases step
  exact List.mem_append_right _ List.mem_cons_self

theorem waiting_of_run {members : List (String × Json)}
    (run : members.foldlM p.addMember draft = some draft') (inside : member ∈ members)
    (document : p.readMember (p.currentKey member.1) member.2 = .document) :
    p.currentKey member.1 ∈ draft'.2 := by
  induction members generalizing draft with
  | nil => cases inside
  | cons first rest ih =>
      rw [List.foldlM_cons] at run
      obtain ⟨next, step, later⟩ := Option.bind_eq_some_iff.mp run
      cases inside with
      | head =>
          have waits := addMember_of_document step document
          exact foldlM_keeps (fun d => p.currentKey member.1 ∈ d.2)
            (fun _ _ _ _ kept stepped => waiting_of_addMember stepped kept) waits later
      | tail _ inRest => exact ih later inRest

section Resolution

variable {fields fields' : SortedMap String ReportField} {waiting : List String} {u : Uri}

theorem resolveDocument_strict (strict : p.strict = true)
    (step : p.resolveDocument fields key = some fields') :
    ∃ u, fields.get? Report.documentKey = some (.uri u) ∧ fields' = fields.insert key (.uri u) := by
  simp only [resolveDocument, strict, if_true] at step
  split at step
  · rename_i u document
    split at step
    · cases step
      exact ⟨u, document, rfl⟩
    · cases step
  · cases step

theorem document_of_resolved (strict : p.strict = true) (waits : key ∈ waiting)
    (run : waiting.foldlM p.resolveDocument fields = some fields') :
    ∃ u, fields.get? Report.documentKey = some (.uri u) := by
  cases waiting with
  | nil => cases waits
  | cons name rest =>
      rw [List.foldlM_cons] at run
      obtain ⟨next, step, _⟩ := Option.bind_eq_some_iff.mp run
      obtain ⟨u, document, _⟩ := resolveDocument_strict strict step
      exact ⟨u, document⟩

theorem get?_resolved (strict : p.strict = true)
    (document : fields.get? Report.documentKey = some (.uri u))
    (run : waiting.foldlM p.resolveDocument fields = some fields') (key : String) :
    fields'.get? key = if key ∈ waiting then some (.uri u) else fields.get? key := by
  induction waiting generalizing fields with
  | nil =>
      cases run
      simp
  | cons name rest ih =>
      rw [List.foldlM_cons] at run
      obtain ⟨next, step, later⟩ := Option.bind_eq_some_iff.mp run
      obtain ⟨v, found, rfl⟩ := resolveDocument_strict strict step
      obtain rfl : u = v := by
        rw [document] at found
        cases found
        rfl
      -- The document's field stays what it is, even where its own name waits.
      have kept : (fields.insert name (.uri u)).get? Report.documentKey = some (.uri u) := by
        rw [SortedMap.get?_insert]
        split
        · rfl
        · exact document
      rw [ih kept later, SortedMap.get?_insert]
      by_cases same : key = name
      · simp [same]
      · simp [same]

end Resolution

/-- Whatever else an object has, and in whatever order, each of its members that stands for the
document's URI is read as the URI in the document's field. -/
theorem uri?_of_self (strict : p.strict = true) {members : List (String × Json)} {r : Report}
    (read : p.parseJson (.object members) = r) (valid : r.isInvalid = false) {name text : String}
    (inside : (name, .string text) ∈ members) (listed : p.currentKey name ∈ p.uriKeys)
    (self : isSelf text = true) :
    ∃ u, r.uri? (p.currentKey name) = some u ∧ r.uri? Report.documentKey = some u := by
  cases r with
  | invalid => cases valid
  | valid fields =>
      obtain ⟨_, draft, same, added, resolved, _⟩ := parseJson_eq_valid_iff.mp read
      cases same
      have waits := waiting_of_run added inside (readMember_self listed self)
      obtain ⟨u, document⟩ := document_of_resolved strict waits resolved
      have fields_eq := get?_resolved strict document resolved
      have own : fields.get? (p.currentKey name) = some (.uri u) := by
        rw [fields_eq, if_pos waits]
      have documents : fields.get? Report.documentKey = some (.uri u) := by
        rw [fields_eq, document, ite_self]
      refine ⟨u, ?_, ?_⟩
      · simp only [Report.uri?, Report.get?, Report.fields, own]
      · simp only [Report.uri?, Report.get?, Report.fields, documents]

/-- Two members come under each name here. What the first one left for the blocked URI is replaced,
and the document's field is filled by the later of its two. -/
theorem uri?_of_self_repeated :
    let members : List (String × Json) :=
      [("Blocked-URI", .string "http://other"), ("blocked-uri", .string " SELF "),
        ("document-URL", .string "self"), ("document-uri", .string "http://D.org/p"),
        ("violated-directive", .string "img-src *")]
    let p := ReportParser.standard
    let r := p.parseJson (.object members)
    (p.strict = true ∧ r.isInvalid = false ∧ ("blocked-uri", .string " SELF ") ∈ members ∧
      p.currentKey "blocked-uri" ∈ p.uriKeys ∧ isSelf " SELF " = true) ∧
      r.uri? Report.documentKey = some (.regular ⟨"http", "d.org", none, "/p", ""⟩) ∧
      ∃ u, r.uri? (p.currentKey "blocked-uri") = some u ∧ r.uri? Report.documentKey = some u := by
  intro members p r
  obtain ⟨valid, document⟩ : r.isInvalid = false ∧
      r.uri? Report.documentKey = some (.regular ⟨"http", "d.org", none, "/p", ""⟩) := by
    decide +kernel
  have inside : ("blocked-uri", .string " SELF ") ∈ members := by simp [members]
  have listed : p.currentKey "blocked-uri" ∈ p.uriKeys := by decide +kernel
  have self : isSelf " SELF " = true := by decide +kernel
  exact ⟨⟨rfl, valid, inside, listed, self⟩, document,
    uri?_of_self rfl (p := p) (r := r) rfl valid inside listed self⟩

end ReportParser

end ContentPolicy
