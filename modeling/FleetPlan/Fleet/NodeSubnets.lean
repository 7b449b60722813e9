import FleetPlan.Cluster.Input
import FleetPlan.Json.Collection
import FleetPlan.Network.SubnetChoice
import FleetPlan.Plan.Basic

/-!
The subnets of a group of nodes.

Subnets that are asked for win; otherwise the first kind that the cluster sets does, in an order
that differs between the two sorts of groups; route tables are consulted only when a group of one's
own finds neither private nor public subnets set.
-/
namespace FleetPlan

def RouteFailure.failure (f : RouteFailure) : Failure := .lookup f.subject f.reason

namespace Plan

/-- The routes in effect for a subnet; nothing is asked through a provider that does not exist. -/
def routesInEffect (placement : Placement) (site : Site) (subnet : Json) :
    Traced Event (Except RouteFailure (List Route)) :=
  match placement.server.bind Provider.failure with
  | some e => return .error (.unavailable subnet e.message)
  | none =>
    (site.cloud.directory.tableInEffect subnet).mapTrace fun q =>
      .asked (callOf placement (.routing q))

/-- The private subset of some subnets, or all of them if none is private. -/
def chooseSubnets (placement : Placement) (ids : List Json) : Plan (List Json) := fun site =>
  let chosen := workerSubnets (routesInEffect placement site) ids
  ⟨chosen.answer.mapError RouteFailure.failure, chosen.trace⟩

/-- A choice among a collection of subnets, of which there are none when it is not given. -/
def chooseAmong (placement : Placement) (every : Json) : Plan Json := do
  if every.isTruthy then
    match every.items? with
    | some ids => return .list (← chooseSubnets placement ids)
    | none => fail .wrongKind
  else return .list []

end Plan

def Json.set? (v : Json) : Option Json := if v.isNull then none else some v

/-- The subnets of a group of one's own: those asked for, or else the cluster's private ones, its
public ones, or a choice among all of its subnets. -/
def workerSubnetIds (asked : Option (Deferred Json)) (cluster : Deferred Cluster)
    (placement : Placement) : Plan (Deferred Json) :=
  match asked with
  | some ids => return ids
  | none =>
    let known : Deferred (Json × Json × Json) := do
      let inside ← cluster.part Cluster.privateSubnets
      let outside ← cluster.part Cluster.publicSubnets
      let every ← cluster.part Cluster.subnets
      return (inside, outside, every)
    Plan.whenKnown known fun (inside, outside, every) => do
      let found ← firstSet [fun _ => pure inside.set?, fun _ => pure outside.set?,
        fun _ => do return some (← Plan.chooseAmong placement every)]
      return pure (.ofOption found)

/-- The subnets of a managed group: those asked for, or else the cluster's subnets, its private
ones, its public ones, or none. -/
def managedSubnetIds (asked : Option (Deferred Json)) (cluster : Deferred Cluster) :
    Deferred Json :=
  match asked with
  | some ids => ids
  | none => do
    let every ← cluster.part Cluster.subnets
    let inside ← cluster.part Cluster.privateSubnets
    let outside ← cluster.part Cluster.publicSubnets
    let found ← firstSet [fun _ => pure every.set?, fun _ => pure inside.set?,
      fun _ => pure outside.set?, fun _ => pure (some (.list []))]
    return .ofOption found

end FleetPlan
