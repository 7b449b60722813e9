import FleetPlan.Cluster.Descriptor
import FleetPlan.Request.Setting

/-!
The description of a cluster, given field by field.

Six fields have to be there and only the parts of a description are fields; the admitted roles are an
empty list when they are left out, and every other field is null. What nodes wait for has to be
resources.
-/
namespace FleetPlan.Cluster

def neededFields : List String := [
  "cluster_name", "endpoint", "certificate_authority_data", "version", "vpc_id",
  "cluster_security_group_id"]

def fields : List String := Entries.keys parts ++ resourceParts

def resourcePart : Part → Deferred (Option Resource)
  | .given v => do
    match v.resource? with
    | some r => return some r
    | none => if (← v.deferred).isNull then return none else .fail .noSuchPart
  | .sequence _ => .fail .noSuchPart

def heldResource (d : Deferred (Option Resource)) : Setting :=
  match d.outcome with
  | .ok none => .null
  | .ok (some r) => .leaf (.resource r)
  | .error e => .ofDeferred (.fail e)

def field? (c : Cluster) (key : String) : Option Setting :=
  match key with
  | "vpc_cni" => some (heldResource c.networkPlugin)
  | "eks_node_access" => some (heldResource c.nodeAccess)
  | key => (Entries.get? parts key).map fun part => .ofKnown (part c).deferred

def absentPart (key : String) : Part :=
  .given (if key = "instance_role_arns" then .list [] else .null)

def ofParts (es : Entries Part) : Except Failure Cluster := do
  checkKeys fields neededFields (Entries.keys es)
  let part (key : String) : Part := (Entries.get? es key).getD (absentPart key)
  return {
    name := part "cluster_name"
    endpoint := part "endpoint"
    authority := part "certificate_authority_data"
    version := part "version"
    network := part "vpc_id"
    controlGroup := part "cluster_security_group_id"
    subnets := part "subnet_ids"
    privateSubnets := part "private_subnet_ids"
    publicSubnets := part "public_subnet_ids"
    profileArn := part "instance_profile_arn"
    roleArns := part "instance_role_arns"
    nodeGroup := part "node_security_group_id"
    nodeGroupTags := part "node_security_group_tags"
    tags := part "tags"
    networkPlugin := resourcePart (part "vpc_cni")
    nodeAccess := resourcePart (part "eks_node_access") }

def ofFields (es : Entries Setting) : Except Failure Cluster :=
  ofParts (Entries.mapValues Part.given es)

end FleetPlan.Cluster
