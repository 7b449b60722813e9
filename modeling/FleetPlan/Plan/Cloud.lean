import FleetPlan.Network.Route
import FleetPlan.Plan.Resource
import FleetPlan.Plan.Schema

/-!
The cloud as a plan sees it: questions with their answers, and the outputs of new resources.

Every question has a name, arguments and a token under which a refusal is reported. Ids and answers
may be any value that travels.
-/
namespace FleetPlan

/-- A question to the cloud. -/
inductive Question where
  | region
  | parameter (name : String)
  | image (id : Json)
  | routing (q : RouteQuery)

namespace Question

def name : Question → String
  | region => "getRegion"
  | parameter _ => "getParameter"
  | image _ => "getAmi"
  | routing (.tableOfSubnet _) => "getRouteTable"
  | routing (.subnet _) => "getSubnet"
  | routing (.mainTables _) => "getRouteTables"
  | routing (.table _) => "getRouteTable"

/-- A condition on what is listed: what is named has the value. -/
def condition (name : String) (value : Json) : Json :=
  .map [("name", .text name), ("values", .list [value])]

def arguments : Question → Entries Json
  | region => []
  | parameter name => [("name", .text name)]
  | image id =>
    [("owners", .list [.text "self", .text "amazon"]),
      ("filters", .list [condition "image-id" id])]
  | routing (.tableOfSubnet subnet) => [("subnetId", subnet)]
  | routing (.subnet id) => [("id", id)]
  | routing (.mainTables network) =>
    [("vpcId", .text network), ("filters", .list [condition "association.main" (.text "true")])]
  | routing (.table id) => [("routeTableId", .text id)]

/-- Whether the arguments have the forms that are declared for them. -/
def isWellFormed : Question → Bool
  | image id => Shape.fits id .single
  | _ => true

def family : Question → String
  | region => "aws:index/"
  | parameter _ => "aws:ssm/"
  | _ => "aws:ec2/"

def token (q : Question) : String := q.family ++ q.name ++ ":" ++ q.name

end Question

/-- A question that was asked, below a parent and through a provider. -/
structure Call where
  question : Question
  parent : Option ResourceRef
  provider : Option String

/-- The answers to questions, a refusal being its reason, and what new resources put out. -/
structure Cloud where
  region : Except String Json
  parameter : String → Except String Json
  /-- The names of an image's block devices. -/
  devices : Json → Except String (List Json)
  routing : RouteDirectory (List Route)
  /-- What a stack exports. -/
  exports : String → Entries Json
  /-- What a resource with these inputs puts out. -/
  outputs : ResourceRef → Entries Json → Entries Json

def Question.refused {α : Type} (q : Question) (answer : Except String α) : Except String α :=
  answer.mapError (Failure.refusal q.token)

/-- The directory of route tables, its refusals worded for the one who asked. -/
def Cloud.directory (c : Cloud) : RouteDirectory (List Route) where
  tableOfSubnet subnet :=
    (Question.routing (.tableOfSubnet subnet)).refused (c.routing.tableOfSubnet subnet)
  networkOfSubnet subnet :=
    (Question.routing (.subnet subnet)).refused (c.routing.networkOfSubnet subnet)
  mainTables network :=
    (Question.routing (.mainTables network)).refused (c.routing.mainTables network)
  table id := (Question.routing (.table id)).refused (c.routing.table id)

end FleetPlan
