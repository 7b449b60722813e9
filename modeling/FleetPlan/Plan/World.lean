import FleetPlan.Plan.Cloud

/-!
A cloud whose answers stand in tables, for plans that are made offline.

What is in no table is refused with the key that was looked for; a new resource puts out its inputs,
an id, and what its type adds. Answers may be any values, as they may from a cloud.
-/
namespace FleetPlan

/-- What is looked for in a table: its kind, its key, and what the key is of. -/
structure Sought where
  kind : String
  key : Json
  role : String

def Sought.text (s : Sought) : String := s.kind ++ " " ++ s.key.wire.display

def Sought.among {α : Type} (s : Sought) (refusal : Sought → String) (table : Entries α) :
    Except String α :=
  match s.key.text?.bind (Entries.get? table) with
  | some a => .ok a
  | none => .error (refusal s)

def RouteDirectory.ofTables {τ : Type} (refusal : Sought → String) (bySubnet : Entries τ)
    (networks : Entries String) (mains : Entries (List String)) (tables : Entries τ) :
    RouteDirectory τ where
  tableOfSubnet id := Sought.among ⟨"route table for", id, "subnetId"⟩ refusal bySubnet
  networkOfSubnet id := Sought.among ⟨"subnet", id, "id"⟩ refusal networks
  mainTables network := Sought.among ⟨"vpc", .text network, "vpcId"⟩ refusal mains
  table id := Sought.among ⟨"route table for", .text id, "routeTableId"⟩ refusal tables

structure World where
  region : Json
  /-- Parameters by name; without a table, every parameter is the same. -/
  parameters : Option (Entries Json)
  devices : List Json
  subnetTables : Entries (List Route)
  tables : Entries (List Route)
  subnetNetworks : Entries String
  mainTables : Entries (List String)
  exports : Entries (Entries Json)
  stackOutputs : Entries Json
  latestVersion : Json
  arns : Entries Json

namespace World

def parameter (w : World) (name : String) : Except String Json :=
  match w.parameters with
  | none => .ok (.text "ami-0123456789abcdef0")
  | some es =>
    match Entries.get? es name with
    | some value => .ok value
    | none => .error "parameter not found (name)"

/-- What a type of resource puts out beside its inputs and its id. A value that is put out only
where no input says otherwise comes with `false`. -/
def added (w : World) (r : ResourceRef) : List (String × Json × Bool) :=
  let orDefault (es : Entries Json) (fallback : Json) : Json :=
    (Entries.get? es r.name).getD fallback
  match r.type with
  | "aws:cloudformation/stack:Stack" =>
    [("outputs", orDefault w.stackOutputs (.map [("NodeGroup", .text (r.name ++ "-asg"))]), true)]
  | "aws:ec2/launchTemplate:LaunchTemplate" =>
    [("name", .text r.name, false), ("latestVersion", w.latestVersion, true)]
  | "aws:ec2/launchConfiguration:LaunchConfiguration" => [("name", .text r.name, false)]
  | "aws:ec2/keyPair:KeyPair" => [("keyName", .text r.name, false)]
  | "aws:eks/nodeGroup:NodeGroup" =>
    [("nodeGroupName", .text r.name, false), ("arn", .text ("arn:nodegroup/" ++ r.name), true)]
  | "aws:iam/role:Role" => [("arn", orDefault w.arns (.text ("arn:" ++ r.name)), true)]
  | "aws:iam/instanceProfile:InstanceProfile" =>
    [("arn", orDefault w.arns (.text ("arn:" ++ r.name)), true)]
  | _ => []

def outputs (w : World) (r : ResourceRef) (inputs : Entries Json) : Entries Json :=
  (w.added r).foldl
    (fun es a =>
      if a.2.2 || (Entries.get? es a.1).isNone then Entries.put es a.1 a.2.1 else es)
    (Entries.put inputs "id" (.text (r.name ++ "_id")))

def cloud (w : World) : Cloud where
  region := .ok w.region
  parameter := w.parameter
  devices _ := .ok w.devices
  routing := .ofTables (fun sought => "no " ++ sought.text ++ " (" ++ sought.role ++ ")")
    w.subnetTables w.subnetNetworks w.mainTables w.tables
  exports stack := (Entries.get? w.exports stack).getD []
  outputs := w.outputs

end World
end FleetPlan
