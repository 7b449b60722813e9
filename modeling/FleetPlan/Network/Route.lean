import FleetPlan.Json.Display
import FleetPlan.Network.Ipv4
import FleetPlan.Traced

/-!
Routes, and the route table in effect for a subnet.

A table is public when it sends a destination outside the private blocks to an internet gateway; a
subnet without a table of its own uses the main table of its network. A subnet is named by whatever
value stands for its id.
-/
namespace FleetPlan

structure Route where
  gateway : Option String
  destination : Option String
  deriving DecidableEq, Repr

namespace Route

/-- Internet gateways are told by the front of their id. -/
def toInternetGateway (r : Route) : Bool :=
  "igw-".toList.isPrefixOf (r.gateway.getD "").toList

/-- An internet gateway serves a destination that is not private. -/
def isPublic (r : Route) : Bool := r.toInternetGateway && !isPrivateCidr r.destination

end Route

def hasPublicRoute (routes : List Route) : Bool := routes.any Route.isPublic

/-- A question to the directory of route tables. -/
inductive RouteQuery where
  | tableOfSubnet (subnet : Json)
  | subnet (id : Json)
  | mainTables (network : String)
  | table (id : String)

/-- What the directory answers, or why it has no answer. -/
structure RouteDirectory (τ : Type) where
  tableOfSubnet : Json → Except String τ
  networkOfSubnet : Json → Except String String
  mainTables : String → Except String (List String)
  table : String → Except String τ

/-- Why a subnet has no route table in effect. -/
inductive RouteFailure where
  | noMainTable (subnet : Json) (network : String)
  | unavailable (subnet : Json) (reason : String)

namespace RouteFailure

def subject : RouteFailure → String
  | .noMainTable subnet _ => subnet.display
  | .unavailable subnet _ => "route table of subnet " ++ subnet.display

def reason : RouteFailure → String
  | .noMainTable _ network => "VPC " ++ network ++ " has no main route table"
  | .unavailable _ reason => reason

end RouteFailure

namespace RouteDirectory

variable {τ : Type}

def ask {α : Type} (q : RouteQuery) (answer : Except String α) :
    Traced RouteQuery (Except String α) := ⟨answer, [q]⟩

/-- The main table of the network that a subnet belongs to. -/
def mainTable (d : RouteDirectory τ) (subnet : Json) :
    Traced RouteQuery (Except RouteFailure τ) := do
  match ← ask (.subnet subnet) (d.networkOfSubnet subnet) with
  | .error reason => return .error (.unavailable subnet reason)
  | .ok network =>
    match ← ask (.mainTables network) (d.mainTables network) with
    | .error reason => return .error (.unavailable subnet reason)
    | .ok [] => return .error (.noMainTable subnet network)
    | .ok (id :: _) =>
      match ← ask (.table id) (d.table id) with
      | .error reason => return .error (.unavailable subnet reason)
      | .ok t => return .ok t

/-- The table associated with a subnet, or else the main table of its network. -/
def tableInEffect (d : RouteDirectory τ) (subnet : Json) :
    Traced RouteQuery (Except RouteFailure τ) := do
  match ← ask (.tableOfSubnet subnet) (d.tableOfSubnet subnet) with
  | .ok t => return .ok t
  | .error _ => d.mainTable subnet

end RouteDirectory
end FleetPlan
