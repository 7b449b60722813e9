import FleetPlan.Request.Setting

/-!
The description of an existing cluster, as groups of nodes read it.

Each part may be at hand or deferred, as a whole or in places, and may turn out to be any value; an
absent list is null and differs from an empty one. What a part amounts to is deferred, and comes from
all that is deferred inside it.
-/
namespace FleetPlan

/-- What stands in a part of a description: a setting, or settings in a fixed sequence, which count
as the list of them. -/
inductive Part where
  | given (v : Setting)
  | sequence (vs : List Setting)

namespace Part

def ofDeferred (d : Deferred Json) : Part := given (.ofDeferred d)

def deferred : Part → Deferred Json
  | given v => v.deferred
  | sequence vs => Setting.deferred (.list vs)

end Part

structure Cluster where
  name : Part
  endpoint : Part
  authority : Part
  version : Part
  network : Part
  controlGroup : Part
  subnets : Part
  privateSubnets : Part
  publicSubnets : Part
  profileArn : Part
  roleArns : Part
  nodeGroup : Part
  nodeGroupTags : Part
  tags : Part
  /-- The network plugin that nodes need. -/
  networkPlugin : Deferred (Option Resource)
  /-- The identity mapping that admits nodes. -/
  nodeAccess : Deferred (Option Resource)

namespace Cluster

def fleetDependencies (c : Cluster) : Deferred (List Resource) := do
  let plugin ← c.networkPlugin
  let access ← c.nodeAccess
  return plugin.toList ++ access.toList

def accessDependencies (c : Cluster) : Deferred (List Resource) := do
  return (← c.nodeAccess).toList

def parts : Entries (Cluster → Part) := [
  ("cluster_name", name),
  ("endpoint", endpoint),
  ("certificate_authority_data", authority),
  ("version", version),
  ("vpc_id", network),
  ("cluster_security_group_id", controlGroup),
  ("subnet_ids", subnets),
  ("private_subnet_ids", privateSubnets),
  ("public_subnet_ids", publicSubnets),
  ("instance_profile_arn", profileArn),
  ("instance_role_arns", roleArns),
  ("node_security_group_id", nodeGroup),
  ("node_security_group_tags", nodeGroupTags),
  ("tags", tags)]

def resourceParts : List String := ["vpc_cni", "eks_node_access"]

end Cluster
end FleetPlan
