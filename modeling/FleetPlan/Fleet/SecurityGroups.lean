import FleetPlan.Cluster.Input
import FleetPlan.Node.Tags
import FleetPlan.Plan.Basic
import FleetPlan.Request.Acceptance

/-!
The security group of a group of nodes and the rule that lets the nodes reach the control plane.

The group's id is known only together with the rule's, so whatever uses it comes after both; a group
that the user brings is checked against the cluster's tags before its id is used.
-/
namespace FleetPlan

/-- A security group and the rule that lets its members reach the control plane. -/
structure GroupPair where
  group : Resource
  rule : Resource

/-- The id of the group, known once the rule's is. -/
def GroupPair.groupId (p : GroupPair) : Deferred Json := do
  let id ← p.group.id
  let _ ← p.rule.id
  return id

/-- A rule of a security group: the traffic that it lets through, and where from or to. -/
structure TrafficRule where
  suffix : String
  type : String
  protocol : String
  fromPort : Int
  toPort : Int
  description : String
  ends : Entries (Deferred Json)

def TrafficRule.draft (r : TrafficRule) (group : String) (placement : Placement)
    (owner : Deferred Json) : Draft where
  type := ResourceRef.securityGroupRuleType
  name := group ++ r.suffix
  placement := placement
  properties := [
    ("type", pure (.text r.type)),
    ("securityGroupId", owner),
    ("protocol", pure (.text r.protocol)),
    ("fromPort", pure (.int r.fromPort)),
    ("toPort", pure (.int r.toPort)),
    ("description", pure (.text r.description))] ++ r.ends

namespace GroupPair

def ownRules (control : Deferred Json) : List TrafficRule := [
  ⟨"-eksNodeIngressRule", "ingress", "-1", 0, 0,
    "Allow nodes to communicate with each other", [("self", pure (.bool true))]⟩,
  ⟨"-eksNodeClusterIngressRule", "ingress", "tcp", 1025, 65535,
    "Allow worker Kubelets and pods to receive communication from the cluster control plane",
    [("sourceSecurityGroupId", control)]⟩,
  ⟨"-eksExtApiServerClusterIngressRule", "ingress", "tcp", 443, 443,
    "Allow pods running extension API servers on port 443 to receive communication from " ++
      "cluster control plane",
    [("sourceSecurityGroupId", control)]⟩,
  ⟨"-eksNodeInternetEgressRule", "egress", "-1", 0, 0, "Allow internet access",
    [("cidrBlocks", pure (.list [.text "0.0.0.0/0"]))]⟩]

def controlRule (group : Deferred Json) : TrafficRule :=
  ⟨"-eksClusterIngressRule", "ingress", "tcp", 443, 443,
    "Allow pods to communicate with the cluster API Server",
    [("sourceSecurityGroupId", group)]⟩

def registerAll : List Draft → Plan Unit
  | [] => return ()
  | d :: ds => do
    let _ ← Plan.register d
    registerAll ds

/-- The tags that a cluster puts on the groups of its nodes. -/
def clusterTags (cluster : Deferred Cluster) : Deferred (Entries Json) := do
  let forGroups ← cluster.part Cluster.nodeGroupTags
  let own ← cluster.part Cluster.tags
  Deferred.ofOption (Tags.ofCluster forGroups own)

def groupDraft (name : String) (cluster : Deferred Cluster) (placement : Placement) : Draft where
  type := ResourceRef.securityGroupType
  name := name ++ "-nodeSecurityGroup"
  placement := placement
  properties := [
    ("vpcId", cluster.part Cluster.network),
    ("revokeRulesOnDelete", pure (.bool true)),
    ("description", pure (.text "Security group for EKS worker nodes")),
    ("tags", do
      let clusterName ← cluster.part Cluster.name
      let tags ← clusterTags cluster
      return .map (Tags.securityGroup name clusterName.display tags))]

def create (name : String) (cluster : Deferred Cluster) (placement : Placement) :
    Plan GroupPair := do
  let group ← Plan.register (groupDraft name cluster placement)
  let groupId := group.output "id"
  let control := cluster.part Cluster.controlGroup
  registerAll ((ownRules control).map fun r => r.draft name placement groupId)
  let rule ← Plan.register ((controlRule groupId).draft name placement control)
  return ⟨group, rule⟩

def obtain (name : String) (firewall : Firewall) (cluster : Deferred Cluster)
    (placement : Placement) : Plan GroupPair :=
  match firewall.group, firewall.ingressRule with
  | none, _ => create name cluster placement
  | some group, some rule => return ⟨group, rule⟩
  | some _, none => Plan.fail .noSuchPart

/-- The id of the group for the use of nodes. A group that the user brought is checked first. -/
def nodeGroupId (pair : GroupPair) (firewall : Firewall) (cluster : Deferred Cluster) :
    Deferred Json :=
  if firewall.group.isNone then pair.groupId
  else do
    let id ← pair.groupId
    let clusterId ← cluster.part Cluster.nodeGroup
    let tags ← cluster.part Cluster.nodeGroupTags
    Deferred.ofExcept (checkGroupTags id clusterId tags)
    return id

end GroupPair
end FleetPlan
