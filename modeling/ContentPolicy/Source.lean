import ContentPolicy.Percent
import ContentPolicy.Scheme
import ContentPolicy.Sorted.Map

/-!
Sources: the entries of a directive's whitelist, and their written form. Sources are ordered so
that a whitelist has one listing; the order is lexicographic in `Source.rank`.
-/

namespace ContentPolicy

inductive PortPattern where
  | number (port : Port)
  | any
  deriving DecidableEq

/-- A source written as a scheme, or as a host with a scheme, a port or a path around it. A text
component that is absent is the empty text. Scheme and host are in lower case. -/
structure UriPattern where
  scheme : String
  host : String
  port : Option PortPattern
  path : String
  deriving DecidableEq

inductive Source where
  | uri (pattern : UriPattern)
  | self
  | unsafeInline
  | unsafeEval
  | invalid
  deriving DecidableEq

namespace PortPattern

def render : PortPattern → List Char
  | .number port => port.toDigits
  | .any => ['*']

def rank : Option PortPattern → Nat
  | none => 0
  | some (.number port) => 1 + port.toNat
  | some .any => 1 + UInt16.size

theorem rank_injective {a b : Option PortPattern} (same : rank a = rank b) : a = b := by
  have bound : ∀ p : Port, p.toNat < UInt16.size := fun p => p.toNat_lt
  match a, b with
  | none, none => rfl
  | some .any, some .any => rfl
  | some (.number p), some (.number q) =>
      rw [UInt16.toNat_inj.mp (Nat.add_left_cancel same)]
  | none, some (.number q) => simp only [rank] at same; omega
  | none, some .any => simp only [rank] at same; omega
  | some (.number p), none => simp only [rank] at same; omega
  | some .any, none => simp only [rank] at same; omega
  | some (.number p), some .any => have := bound p; simp only [rank] at same; omega
  | some .any, some (.number q) => have := bound q; simp only [rank] at same; omega

end PortPattern

namespace UriPattern

def make (scheme host : String) (port : Option PortPattern) (path : String) : UriPattern :=
  ⟨scheme.toLower, host.toLower, port, path⟩

def ofScheme (scheme : String) : UriPattern := make scheme "" none ""

def any : UriPattern := make "" "*" none ""

def isAny (p : UriPattern) : Bool :=
  p.scheme = "" && p.host = "*" && p.port = none && p.path = ""

def isSchemeOnly (p : UriPattern) : Bool :=
  p.scheme ≠ "" && p.host = "" && p.port = none && p.path = ""

def withoutPath (p : UriPattern) : UriPattern := { p with path := "" }

/-- What is left when only the scheme is kept: without a scheme, nothing that a source could be. -/
def schemeSource (p : UriPattern) : Source :=
  if p.scheme = "" then .invalid else .uri (ofScheme p.scheme)

def renderScheme (scheme : String) : List Char :=
  if scheme = "" then [] else scheme.toList ++ [':', '/', '/']

def renderPort : Option PortPattern → List Char
  | none => []
  | some port => ':' :: port.render

def render (p : UriPattern) : List Char :=
  if p.isSchemeOnly then p.scheme.toList ++ [':']
  else
    renderScheme p.scheme ++ p.host.toList ++ renderPort p.port ++
      Percent.encodePath p.path.toList

end UriPattern

namespace Source

def any : Source := .uri .any

def isInvalid : Source → Bool
  | .invalid => true
  | _ => false

def withoutPath : Source → Source
  | .uri pattern => .uri pattern.withoutPath
  | keyword => keyword

def schemeOnly : Source → Source
  | .uri pattern => pattern.schemeSource
  | keyword => keyword

def strip (schemes : List String) : Source → Source
  | .uri pattern =>
      if pattern.scheme ≠ "" ∧ pattern.scheme ∈ schemes then pattern.schemeSource
      else .uri pattern.withoutPath
  | keyword => keyword

def render : Source → List Char
  | .uri pattern => pattern.render
  | .self => "'self'".toList
  | .unsafeInline => "'unsafe-inline'".toList
  | .unsafeEval => "'unsafe-eval'".toList
  | .invalid => "[invalid]".toList

def text (s : Source) : String := String.ofList s.render

def rank : Source → Nat × String × String × Nat × String
  | .uri p => (0, p.scheme, p.host, PortPattern.rank p.port, p.path)
  | .self => (1, "", "", 0, "")
  | .unsafeInline => (2, "", "", 0, "")
  | .unsafeEval => (3, "", "", 0, "")
  | .invalid => (4, "", "", 0, "")

theorem rank_injective {a b : Source} (same : a.rank = b.rank) : a = b := by
  cases a <;> cases b <;> simp [rank] at same
  case uri.uri p q =>
    obtain ⟨schemes, hosts, ports, paths⟩ := same
    have ports := PortPattern.rank_injective ports
    cases p
    cases q
    simp_all
  all_goals rfl

instance : Ord Source where
  compare := compareLex (compareOn (·.rank.1)) <|
    compareLex (compareOn (·.rank.2.1)) <|
    compareLex (compareOn (·.rank.2.2.1)) <|
    compareLex (compareOn (·.rank.2.2.2.1)) (compareOn (·.rank.2.2.2.2))

instance : Std.TransOrd Source :=
  inferInstanceAs (Std.TransCmp (compareLex _ _))

theorem compare_eq (a b : Source) :
    compare a b =
      (compare a.rank.1 b.rank.1).then ((compare a.rank.2.1 b.rank.2.1).then
        ((compare a.rank.2.2.1 b.rank.2.2.1).then
          ((compare a.rank.2.2.2.1 b.rank.2.2.2.1).then
            (compare a.rank.2.2.2.2 b.rank.2.2.2.2)))) := rfl

instance : Std.LawfulEqOrd Source where
  compare_self := Std.ReflCmp.compare_self
  eq_of_compare {a b} same := by
    simp only [compare_eq, Ordering.then_eq_eq, SortedMap.compare_eq_iff] at same
    obtain ⟨first, second, third, fourth, fifth⟩ := same
    exact rank_injective
      (Prod.ext first (Prod.ext second (Prod.ext third (Prod.ext fourth fifth))))

end Source

abbrev Whitelist := SortedSet Source

end ContentPolicy
