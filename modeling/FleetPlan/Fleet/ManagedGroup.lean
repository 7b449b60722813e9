import FleetPlan.Fleet.NodeSubnets
import FleetPlan.Node.Taint
import FleetPlan.Plan.Basic
import FleetPlan.Request.Acceptance

/-!
Groups of nodes that the cloud manages.

The role of a group is known only once the cluster is seen to admit it, so that no group is
registered with any other; the group waits for the identity mapping.
-/
namespace FleetPlan

namespace ManagedGroup

def componentType : String := "eks:nodegroups:ManagedNodeGroup"

def askedRole (o : ManagedOptions) : Deferred Json :=
  if o.roleArn.isTruthy then o.roleArn.value
  else
    match o.role with
    | some role => role.output "arn"
    | none => .fail .noSuchPart

/-- The role of the group, once the cluster is seen to admit it. A cluster that gives no roles
admits none. -/
def role (o : ManagedOptions) (cluster : Deferred Cluster) : Deferred Json := do
  let arn ← askedRole o
  let admitted ← cluster.part Cluster.roleArns
  Deferred.ofExcept (authorizedRole arn (if admitted.isTruthy then admitted else .list []))

/-- The bounds of a group, those not set taking their default. -/
def scaling (bounds : Option Bounds) (defaults : Range) : Range :=
  (bounds.getD ⟨none, none, none⟩).fill defaults

def blockProperty : Option Block → Deferred Json
  | none => pure .null
  | some b => b.body

def textMap (es : Entries String) : Json := .map (Entries.mapValues Value.text es)

def optional {α : Type} (f : α → Json) : Option α → Deferred Json
  | none => pure .null
  | some a => pure (f a)

def draft (name : String) (o : ManagedOptions) (cluster : Deferred Cluster)
    (placement : Placement) : Draft where
  type := "aws:eks/nodeGroup:NodeGroup"
  name := name
  placement := placement
  properties := [
    ("clusterName",
      if o.clusterName.isTruthy then o.clusterName.value else cluster.part Cluster.name),
    ("nodeGroupName", o.groupName.value),
    ("nodeRoleArn", role o cluster),
    ("subnetIds", managedSubnetIds o.subnets.value? cluster),
    ("scalingConfig", pure (scaling o.scaling .small).scaling),
    ("instanceTypes", optional (fun ts => .list (ts.map Value.text)) o.instanceTypes),
    ("capacityType", optional (fun p => .text p.code) o.purchase),
    ("amiType", optional (fun i => .text i.code) o.image),
    ("diskSize", optional Value.int o.diskSize),
    ("releaseVersion", o.releaseVersion.value),
    ("version", o.version.value),
    ("forceUpdateVersion", optional Value.bool o.forceUpdate),
    ("labels", optional textMap o.labels),
    ("taints", pure (managedTaints o.taints)),
    ("launchTemplate", blockProperty o.launchTemplate),
    ("remoteAccess", blockProperty o.remoteAccess),
    ("updateConfig", blockProperty o.updatePolicy),
    ("tags", pure (if o.tags.isEmpty then .null else textMap o.tags))]
  after := do (← cluster).accessDependencies

def create (name : String) (cluster : ClusterInput) (o : ManagedOptions)
    (placement : Placement) : Plan Resource := do
  Plan.ofExcept (o.check name)
  Plan.register (draft name o cluster.cluster placement)

/-- Plans a group as a component, whose options are checked before it is registered; the component
comes first in the result. -/
def component (name : String) (cluster : ClusterInput) (o : ManagedOptions)
    (provider : Option Resource) : Plan (Resource × Resource) := do
  Plan.ofExcept (o.check name)
  let self ← Plan.register {
    type := componentType
    name := name
    placement := .top
    properties := []
    isComponent := true }
  let group ← create name cluster o ⟨some self, provider⟩
  Plan.publish self [
    ("node_group_name", group.output "nodeGroupName"),
    ("node_group_arn", group.output "arn")]
  return (self, group)

end ManagedGroup
end FleetPlan
