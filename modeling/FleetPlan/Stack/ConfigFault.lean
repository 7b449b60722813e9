import FleetPlan.Json.Display
import FleetPlan.Request.Fault

/-!
What can be wrong with a configuration.
-/
namespace FleetPlan

/-- A fault of a configuration over a kind of texts; `φ` is what can be wrong with options. -/
inductive ConfigFault (τ : Type := String) (φ : Type := List FieldFault) where
  | notJson (key : String)
  | groupsNotAList
  | tagsNotAMap
  | entryNotAMap (index : Int)
  | entryUnnamed (index : Int)
  | unknownKind (index : Int) (name kind : Json τ)
  | invalidOptions (index : Int) (name : Json τ) (faults : φ)
  | repeatedNames (names : List τ)

namespace ConfigFault

def entry (index : Int) : String := "nodeGroups[" ++ toString index ++ "]"

def namedEntry (index : Int) (name : Json) : String :=
  entry index ++ " (" ++ name.display ++ ")"

def message : ConfigFault → String
  | notJson key => key ++ " is not valid JSON"
  | groupsNotAList => "nodeGroups must be a JSON list"
  | tagsNotAMap => "tags must be a JSON object"
  | entryNotAMap index => entry index ++ " must be an object"
  | entryUnnamed index => entry index ++ " is missing a name"
  | unknownKind index name kind =>
    namedEntry index name ++ " has unknown kind '" ++ kind.display ++ "'"
  | invalidOptions index name _ => namedEntry index name ++ " has invalid options"
  | repeatedNames names => "duplicate node group names: " ++ ", ".intercalate names

end ConfigFault
end FleetPlan
