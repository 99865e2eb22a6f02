import ContentPolicy.Port
import ContentPolicy.Sorted.Map

/-!
Configurations as they are written: every entry is optional, and what is left out keeps its standard
value. Nothing here is checked or brought to lower case yet.
-/

namespace ContentPolicy

structure UriConfig where
  addScheme : Option Bool := none
  defaultScheme : Option String := none
  addPort : Option Bool := none
  defaultPort : Option Port := none
  decode : Option Bool := none
  deriving DecidableEq

structure DirectivesConfig where
  allowed : Option (List String) := none
  ignored : Option (List String) := none
  defaultSrcTypes : Option (List String) := none
  schemeOnly : Option (List String) := none
  /-- The present names of renamed types, beside the standard ones. -/
  renamedTypes : SortedMap String String := ∅
  deriving DecidableEq

structure ReportConfig where
  uriKeys : Option (List String) := none
  directiveKeys : Option (List String) := none
  policyKeys : Option (List String) := none
  requiredKeys : Option (List String) := none
  addScheme : Option Bool := none
  addPort : Option Bool := none
  expandDefaultSrc : Option Bool := none
  keyRenames : SortedMap String String := ∅
  deriving DecidableEq

structure Config where
  schema : Option String := none
  profile : Option String := none
  strict : Option Bool := none
  expandDefaultSrc : Option Bool := none
  uri : UriConfig := {}
  /-- Schemes that are known beside the standard ones, each with its port if it has one. -/
  schemes : SortedMap String (Option Port) := ∅
  /-- The scheme for a port, by the digits of the port. -/
  portSchemes : SortedMap String String := ∅
  directives : DirectivesConfig := {}
  report : ReportConfig := {}
  deriving DecidableEq

end ContentPolicy
