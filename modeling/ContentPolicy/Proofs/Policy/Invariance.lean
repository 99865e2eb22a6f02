import Mathlib.Data.List.Forall2
import ContentPolicy.Policy
import ContentPolicy.Proofs.Source.Origin
import ContentPolicy.Uri.Parser

/-!
What a verdict of a policy does not depend on. It goes by the type in lower case, the origins of the
resource and of the document, and the path of the resource. So neither letter case nor a query nor
the path of the document makes a difference, and neither does it matter whether a port that the
scheme implies is written.
-/

namespace ContentPolicy

namespace Text

def Recased (s t : String) : Prop :=
  List.Forall₂ (fun c d => d = c ∨ d = c.toUpper ∨ d = c.toLower) s.toList t.toList

theorem recased_iff {s t : String} : Recased s t ↔ s.toLower = t.toLower := by
  rw [← String.toList_inj, toList_toLower, toList_toLower, lower, lower, ← List.forall₂_eq_eq_eq,
    List.forall₂_map_left_iff, List.forall₂_map_right_iff]
  simp only [toLower_eq_toLower_iff, Recased]

end Text

namespace Location

variable {l m : Location} {ports : SchemePorts}

/-- Whether two locations differ at most in the letter case of scheme and host, in path and in
query. -/
structure Respells (l m : Location) : Prop where
  scheme : Text.Recased l.scheme m.scheme
  host : Text.Recased l.host m.host
  port : l.port = m.port

theorem Respells.origin_eq (same : l.Respells m) (ports : SchemePorts) :
    l.origin ports = m.origin ports := by
  have schemes := Text.recased_iff.mp same.scheme
  have hosts := Text.recased_iff.mp same.host
  simp only [origin, schemes, hosts, same.port]

/-- The location with the port that the table has for its scheme, if it names none itself. -/
def withImpliedPort (ports : SchemePorts) (l : Location) : Location :=
  { l with port := l.port.or (ports.entry? l.scheme.toLower).join }

theorem origin_withImpliedPort (ports : SchemePorts) (l : Location) :
    (l.withImpliedPort ports).origin ports = l.origin ports := by
  simp only [origin, withImpliedPort, Option.or_assoc, Option.or_self]

end Location

theorem UriParser.fillPort_known {reader : UriParser} (fills : reader.addPort = true)
    {scheme : String} (known : (reader.schemePorts.entry? scheme).isSome = true)
    (written : Option Port) :
    reader.fillPort (some scheme) written =
      written.or (reader.schemePorts.entry? scheme).join := by
  cases written with
  | some port => rfl
  | none =>
      rw [SchemePorts.entry?] at known ⊢
      split at known
      · cases known
      · rename_i named
        obtain ⟨port, found⟩ := Option.isSome_iff_exists.mp known
        rw [fillPort, if_pos fills, inferredPort, Option.bind_some, if_neg named, found]
        rfl

namespace Policy

variable {l m : Location} {document other : Uri} {type name : String} {ports : SchemePorts}

theorem allows_congr (p : Policy) (types : List String) (sameType : type.toLower = name.toLower)
    (origins : l.origin ports = m.origin ports) (paths : l.path = m.path)
    (documents : document.location.origin ports = other.location.origin ports) :
    p.allows (.regular l) type document ports types =
      p.allows (.regular m) name other ports types := by
  have bySource : ∀ s : Source,
      s.allows (.regular l) document ports = s.allows (.regular m) other ports :=
    fun s => s.allows_congr origins paths documents
  have byWhitelist : ∀ w : Whitelist,
      w.allows (.regular l) document ports = w.allows (.regular m) other ports :=
    fun w => congrArg w.any (funext bySource)
  cases p with
  | invalid => rfl
  | valid whitelists =>
      simp only [allows, sameType, byWhitelist]

/-- A verdict stays when the letter case of the schemes, the hosts or the type changes, when the
resource gets another query, and when the document gets another path or query. -/
theorem allows_respelled (p : Policy) (types : List String) (ports : SchemePorts)
    (resources : l.Respells m) (paths : l.path = m.path)
    (documents : document.location.Respells other.location) (sameType : Text.Recased type name) :
    p.allows (.regular l) type document ports types =
      p.allows (.regular m) name other ports types :=
  p.allows_congr types (Text.recased_iff.mp sameType) (resources.origin_eq ports) paths
    (documents.origin_eq ports)

/-- An image in capitals and with a query, in a document with another letter case and path. -/
theorem allows_respelled_image :
    let p := ofDirectives [.make "img-src" [.uri ⟨"", "*.d", some (.number 8080), ""⟩]]
    let image : Location := ⟨"HTTP", "A.D", some 8080, "/x.PNG", "q"⟩
    let respelled : Location := ⟨"http", "a.d", some 8080, "/x.PNG", ""⟩
    let document := Uri.regular ⟨"http", "A.D", none, "/index", "r"⟩
    let other := Uri.regular ⟨"HTTP", "a.d", none, "", ""⟩
    image.Respells respelled ∧ image.path = respelled.path ∧
      document.location.Respells other.location ∧ Text.Recased "IMG-src" "img-SRC" ∧
      p.allows (.regular image) "IMG-src" document ∅ [] =
        p.allows (.regular respelled) "img-SRC" other ∅ [] ∧
      p.allows (.regular image) "IMG-src" document ∅ [] = true := by
  intro p image respelled document other
  have schemes : Text.Recased "HTTP" "http" ∧ Text.Recased "http" "HTTP" := by
    simp [Text.Recased]
  have hosts : Text.Recased "A.D" "a.d" := by simp [Text.Recased]
  have sameType : Text.Recased "IMG-src" "img-SRC" := by simp [Text.Recased]
  have images : image.Respells respelled := ⟨schemes.1, hosts, rfl⟩
  have documents : document.location.Respells other.location := ⟨schemes.2, hosts, rfl⟩
  exact ⟨images, rfl, documents, sameType,
    allows_respelled p [] ∅ images rfl documents sameType, by decide +kernel⟩

/-- A verdict stays when the port that the scheme of the resource or of the document implies is
written out, in either or in both; and a reader that fills in ports by the same table fills in just
these. -/
theorem allows_withImpliedPort (p : Policy) (type : String) (types : List String)
    {resource document : Location}
    (knownResource : (ports.entry? resource.scheme.toLower).isSome = true)
    (knownDocument : (ports.entry? document.scheme.toLower).isSome = true) :
    let verdict (r d : Location) := p.allows (.regular r) type (.regular d) ports types
    let resource' := resource.withImpliedPort ports
    let document' := document.withImpliedPort ports
    (verdict resource' document = verdict resource document ∧
      verdict resource document' = verdict resource document ∧
      verdict resource' document' = verdict resource document) ∧
    ∀ reader : UriParser, reader.addPort = true → reader.schemePorts = ports →
      reader.fillPort (some resource.scheme.toLower) resource.port = resource'.port ∧
        reader.fillPort (some document.scheme.toLower) document.port = document'.port := by
  intro verdict resource' document'
  have resources := resource.origin_withImpliedPort ports
  have documents := document.origin_withImpliedPort ports
  refine ⟨⟨?_, ?_, ?_⟩, ?_⟩
  · exact p.allows_congr types rfl resources rfl rfl
  · exact p.allows_congr types rfl rfl rfl documents
  · exact p.allows_congr types rfl resources rfl documents
  · rintro reader fills rfl
    exact ⟨reader.fillPort_known fills knownResource _, reader.fillPort_known fills knownDocument _⟩

/-- A script without a port, which a source with the port of the scheme allows, in a document under
a scheme that has no port. -/
theorem allows_withImpliedPort_script :
    let p := ofDirectives [.make "script-src" [.uri ⟨"http", "a.d", some (.number 80), ""⟩]]
    let ports : SchemePorts := .ofList [("http", some 80), ("ws", none)]
    let script : Location := ⟨"http", "a.d", none, "/x.js", ""⟩
    let document : Location := ⟨"WS", "a.d", none, "", ""⟩
    (ports.entry? script.scheme.toLower).isSome = true ∧
      (ports.entry? document.scheme.toLower).isSome = true ∧
      p.allows (.regular (script.withImpliedPort ports)) "script-src" (.regular document) ports [] =
        p.allows (.regular script) "script-src" (.regular document) ports [] ∧
      p.allows (.regular script) "script-src" (.regular document) ports [] = true := by
  intro p ports script document
  have knownScript : (ports.entry? script.scheme.toLower).isSome = true := by decide +kernel
  have knownDocument : (ports.entry? document.scheme.toLower).isSome = true := by decide +kernel
  exact ⟨knownScript, knownDocument,
    (allows_withImpliedPort p "script-src" [] knownScript knownDocument).1.1, by decide +kernel⟩

end Policy

end ContentPolicy
