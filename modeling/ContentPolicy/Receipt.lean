import ContentPolicy.Json.Writer

/-!
Receipts: the results of tasks with all that they rest on, as JSON for other programs.
-/

namespace ContentPolicy

namespace Receipt

def tool : Json := .object [("name", .string "cspkit"), ("version", .string "0.1.0")]

def make (schema : String) (members : List (String × Json)) : Json :=
  .object (("schema", .string schema) :: ("tool", tool) :: members)

end Receipt

structure MatchReceipt where
  policy : String
  resource : String
  resourceType : String
  document : String
  allowed : Bool
  deriving DecidableEq

def MatchReceipt.toJson (r : MatchReceipt) : Json :=
  Receipt.make "cspkit.match.v1"
    [ ("policy", .string r.policy), ("resource", .string r.resource),
      ("resource_type", .string r.resourceType), ("document", .string r.document),
      ("allowed", .bool r.allowed) ]

structure ComparisonReceipt where
  left : String
  right : String
  common : List String
  onlyLeft : List String
  onlyRight : List String
  deriving DecidableEq

def ComparisonReceipt.toJson (r : ComparisonReceipt) : Json :=
  Receipt.make "cspkit.compare.v1"
    [ ("left", .string r.left), ("right", .string r.right), ("common", .strings r.common),
      ("only_left", .strings r.onlyLeft), ("only_right", .strings r.onlyRight) ]

structure GenerationReceipt where
  policy : String
  entriesRead : Nat
  policiesGenerated : Nat
  entriesSkipped : Nat
  deriving DecidableEq

def GenerationReceipt.toJson (r : GenerationReceipt) : Json :=
  Receipt.make "cspkit.generate.v1"
    [ ("policy", .string r.policy), ("entries_read", .ofNat r.entriesRead),
      ("policies_generated", .ofNat r.policiesGenerated),
      ("entries_skipped", .ofNat r.entriesSkipped) ]

end ContentPolicy
