import FleetPlan.Plan.World

/-!
Worlds as data.

Every part of a world may be left out; a table of the wrong form counts as left out, and so does a
row of one whose form is fixed.
-/
namespace FleetPlan

/-- A route; a gateway or a destination that is left out is absent. -/
def Route.ofJson (v : Json) : Route :=
  ⟨(v.member "gateway_id").text?, (v.member "cidr_block").text?⟩

def Route.listOfJson (v : Json) : List Route := v.elements.map Route.ofJson

namespace World

/-- A table of a world, its members read by a function. -/
def tableOf {α : Type} (v : Json) (key : String) (read : Json → α) : Entries α :=
  Entries.mapValues read (v.member key).entries

def ofJson (v : Json) : World where
  region := (Entries.get? v.entries "region").getD (.text "us-west-2")
  parameters :=
    match v.member "parameters" with
    | .map es => some es
    | _ => none
  devices :=
    match v.member "devices" with
    | .list vs => vs
    | _ => [.text "/dev/xvda"]
  subnetTables := tableOf v "subnet_tables" Route.listOfJson
  tables := tableOf v "route_tables" Route.listOfJson
  subnetNetworks := tableOf v "subnet_vpcs" fun n => n.text?.getD ""
  mainTables := tableOf v "main_tables" fun ids => ids.elements.filterMap Value.text?
  exports := tableOf v "stack_exports" Value.entries
  stackOutputs := (v.member "cfn_outputs").entries
  latestVersion := (Entries.get? v.entries "latest_version").getD (.int 1)
  arns := (v.member "arns").entries

end World
end FleetPlan
