import ContentPolicy.LogEntry.Parser
import ContentPolicy.Proofs.File.Lines
import ContentPolicy.Proofs.File.Tree
import ContentPolicy.Proofs.Json.Compact
import ContentPolicy.Proofs.Policy.RoundTrip

/-!
Policies, reports and log entries in files, one a line. The JSON form of a report is an object on
one line. In a policy nothing but the spaces between its pieces is blank, since neither types nor
written sources hold blanks. So what was read comes back from a file text by text.
-/

namespace ContentPolicy

open Text

namespace Text

theorem IsLine.of_trim_eq {cs : List Char} (trimmed : trim cs = cs) (notEmpty : cs ≠ [])
    (unbroken : '\n' ∉ cs) : IsLine cs := by
  have visible : isBlankText cs = false := by
    rw [← isEmpty_trim, trimmed]
    exact List.isEmpty_eq_false_iff.mpr notEmpty
  exact trimmed ▸ .of_trim visible unbroken

theorem IsLine.joined {separator first : List Char} {rest : List (List Char)}
    (oneLine : '\n' ∉ separator) (lines : ∀ line ∈ first :: rest, IsLine line) :
    IsLine (separator.intercalate (first :: rest)) := by
  have start := lines first List.mem_cons_self
  obtain ⟨tail, whole⟩ : ∃ tail, separator.intercalate (first :: rest) = first ++ tail := by
    cases rest with
    | nil => exact ⟨[], by simp⟩
    | cons next rest => exact ⟨_, by rw [List.intercalate_cons_cons, List.append_assoc]⟩
  refine ⟨?_, ?_, ?_, ?_⟩
  · rw [whole]
    exact List.append_ne_nil_of_left_ne_nil start.notEmpty tail
  · rw [whole, List.head?_append, Option.or_of_isSome (List.isSome_head?.mpr start.notEmpty)]
    exact start.first
  · exact isBlank_getLast?_joined separator _ fun line member =>
      ⟨(lines line member).notEmpty, (lines line member).last⟩
  · rw [mem_joined_iff oneLine]
    rintro ⟨line, member, inside⟩
    exact (lines line member).unbroken inside

theorem IsToken.unbroken {cs : List Char} (token : IsToken cs) : '\n' ∉ cs :=
  fun inside => absurd (token.2 '\n' inside).1 (by decide)

end Text

theorem Json.isLine_render_object (members : List (String × Json)) :
    IsLine (Json.object members).render := by
  have oneLine := (render_hasNoControl (.object members)).lineFeed_not_mem
  rw [render] at oneLine ⊢
  refine ⟨List.cons_ne_nil _ _, ?_, ?_, oneLine⟩
  · intro c first
    cases first
    decide
  · intro c last
    rw [List.getLast?_concat] at last
    cases last
    decide

theorem DirectiveParser.isLine_render {p : DirectiveParser} {type : String} {w : Whitelist}
    (named : p.knownSchemes.Named) (plain : p.PlainType type)
    (readable : ∀ s ∈ w, s.Readable p.knownSchemes) :
    IsLine (Directive.regular type w).render := by
  refine .of_trim_eq (trim_render named plain readable) ?_ ?_
  · exact List.append_ne_nil_of_left_ne_nil plain.token.1 _
  · rw [Directive.render_regular, List.mem_append, List.mem_cons,
      Whitelist.mem_renderSources_iff (by decide) (by decide)]
    rintro (inType | space | ⟨s, source, inside⟩)
    · exact plain.token.unbroken inType
    · exact absurd space (by decide)
    · exact (Source.render_isToken named (readable s source)).unbroken inside

theorem PolicyParser.Readable.isLine_render {p : PolicyParser} {m : SortedMap String Whitelist}
    (readable : p.Readable m) : IsLine (Policy.valid m).render := by
  obtain ⟨first, rest, perm, written⟩ :=
    Policy.render_segments (p := .valid m) rfl readable.notEmpty
  rw [written]
  apply IsLine.joined (by decide)
  intro segment member
  obtain ⟨d, directive, rfl⟩ := List.mem_map.mp (perm.mem_iff.mp member)
  obtain ⟨e, entry, rfl⟩ := List.mem_map.mp directive
  exact DirectiveParser.isLine_render readable.named (readable.plain e entry).toPlainType
    (readable.sources e entry)

theorem Policy.isLine_text {p : Policy} {text : String}
    (parsed : PolicyParser.standard.parse text = p) (notEmpty : p.hasNoDirective = false) :
    IsLine p.text.toList := by
  cases p with
  | invalid => cases notEmpty
  | valid m =>
      have readable : PolicyParser.standard.Readable m := PolicyParser.readable_of_read
        SchemePorts.standard_named (PolicyParser.standard_plain_of_listed true) parsed notEmpty
      rw [Policy.text, String.toList_ofList]
      exact readable.isLine_render

theorem Report.isLine_text {r : Report} (valid : r.isInvalid = false) : IsLine r.text.toList := by
  cases r with
  | invalid => cases valid
  | valid fields =>
      rw [text, Json.text, String.toList_ofList]
      exact Json.isLine_render_object _

theorem LogEntry.isLine_text {e : LogEntry} (valid : e.isInvalid = false) :
    IsLine e.text.toList := by
  cases e with
  | invalid => cases valid
  | valid fields =>
      rw [text, Json.text, String.toList_ofList]
      exact Json.isLine_render_object _

inductive Stored where
  | policy (p : Policy)
  | report (r : Report)
  | logEntry (e : LogEntry)

namespace Stored

def text : Stored → String
  | .policy p => p.text
  | .report r => r.text
  | .logEntry e => e.text

/-- Whether the standard readers give the value, a policy for some text and anything else for some
JSON value, and it holds something. -/
def IsRead : Stored → Prop
  | .policy p => p.hasNoDirective = false ∧ ∃ text, PolicyParser.standard.parse text = p
  | .report r => r.isInvalid = false ∧ ∃ json, ReportParser.standard.parseJson json = r
  | .logEntry e => e.isInvalid = false ∧ ∃ json, LogEntryParser.standard.parseJson json = e

-- A text that gives a report or an entry does so by the JSON value that it writes.
theorem isRead_report_parse {text : String}
    (valid : (ReportParser.standard.parse text).isInvalid = false) :
    (report (ReportParser.standard.parse text)).IsRead := by
  refine ⟨valid, ?_⟩
  rw [ReportParser.parse] at valid ⊢
  cases written : Json.parse? text with
  | some json => exact ⟨json, rfl⟩
  | none =>
      rw [written] at valid
      cases valid

theorem isRead_logEntry_parse {text : String}
    (valid : (LogEntryParser.standard.parse text).isInvalid = false) :
    (logEntry (LogEntryParser.standard.parse text)).IsRead := by
  refine ⟨valid, ?_⟩
  rw [LogEntryParser.parse] at valid ⊢
  cases written : Json.parse? text with
  | some json => exact ⟨json, rfl⟩
  | none =>
      rw [written] at valid
      cases valid

theorem IsRead.isLine {v : Stored} (read : v.IsRead) : IsLine v.text.toList := by
  cases v with
  | policy p =>
      obtain ⟨notEmpty, _, parsed⟩ := read
      exact Policy.isLine_text parsed notEmpty
  | report r => exact Report.isLine_text read.1
  | logEntry e => exact LogEntry.isLine_text read.1

/-- Values that were read and are written one a line come back text by text: from the bytes that are
written, and from the file that they are written to. -/
theorem lines_of_written (values : List Stored) (read : ∀ v ∈ values, v.IsRead) :
    Lines.read (Lines.write (values.map text)) = ⟨values.map text, none⟩ ∧
      ∀ (tree next : FileTree) (path : String),
        FileTree.access.create path (Lines.write (values.map text)) tree = (.ok (), next) →
          FileLines.ofContent path (next.read path) = ⟨path, values.map text, none⟩ := by
  have lines : ∀ t ∈ values.map text, IsLine t.toList := by
    intro t member
    obtain ⟨v, inside, rfl⟩ := List.mem_map.mp member
    exact (read v inside).isLine
  have same := (Lines.read_write_iff (values.map text)).mpr lines
  refine ⟨same, fun tree next path created => ?_⟩
  rw [FileTree.read_of_create created, FileLines.ofContent, same]
  rfl

/-- A policy, a report with a field of more levels than a text may have, and an entry with a line
feed in its report. -/
theorem lines_of_written_events :
    let members : List (String × Json) :=
      [ ("blocked-uri", .string "self"), ("document-uri", .string "a.d"),
        ("sample", (fun json => .array [json])^[130] .null),
        ("violated-directive", .string "img-src a.d") ]
    let entry := "\x7b\"csp-report\":\x7b\"blocked-uri\":\"self\",\"document-uri\":\"a.d\"," ++
      "\"violated-directive\":\"img-src a.d\",\"sample\":\"\\n\"\x7d\x7d"
    let values : List Stored :=
      [ .policy (PolicyParser.standard.parse "img-src a.d"),
        .report (ReportParser.standard.parseJson (.object members)),
        .logEntry (LogEntryParser.standard.parse entry) ]
    let bytes := Lines.write (values.map text)
    let next : FileTree := .directory [("", .directory [("events", .file bytes)])]
    (∀ v ∈ values, v.IsRead) ∧ FileTree.access.create "events" bytes .empty = (.ok (), next) ∧
      Lines.read bytes = ⟨values.map text, none⟩ ∧
      FileLines.ofContent "events" (next.read "events") = ⟨"events", values.map text, none⟩ := by
  intro members entry values bytes next
  have holds : (PolicyParser.standard.parse "img-src a.d").hasNoDirective = false ∧
      (ReportParser.standard.parseJson (.object members)).isInvalid = false ∧
      (LogEntryParser.standard.parse entry).isInvalid = false := by
    decide +kernel
  have read : ∀ v ∈ values, v.IsRead :=
    List.forall_mem_cons.mpr ⟨⟨holds.1, _, rfl⟩, List.forall_mem_cons.mpr
      ⟨⟨holds.2.1, _, rfl⟩, List.forall_mem_singleton.mpr (isRead_logEntry_parse holds.2.2)⟩⟩
  have created : FileTree.access.create "events" bytes .empty = (.ok (), next) := by
    have marks : "events".startsWith "/" = false ∧ "events".endsWith "/" = false := by
      decide +kernel
    have placed : FileTree.empty.place? "events" = .ok (some (FileTree.start, "events")) := by
      rw [FileTree.place?, FileTree.beginning, marks.1]
      rfl
    have written : FileTree.empty.write "events" bytes = .ok next := by
      simp only [FileTree.write, placed, marks.2]
      rfl
    exact FileTree.create_of_write rfl written
  obtain ⟨fromBytes, fromFile⟩ := lines_of_written values read
  exact ⟨read, created, fromBytes, fromFile .empty next "events" created⟩

end Stored

end ContentPolicy
