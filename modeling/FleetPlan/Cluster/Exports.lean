import FleetPlan.Cluster.Descriptor
import FleetPlan.Json.Collection

/-!
The description of a cluster, read off what the cluster's stack exports.

Every part comes from the reference to that stack. Exports travel, so a null export is a missing one;
a missing export is a failure where the part is needed and null elsewhere. The admitted roles are the
members of the exported collection if it counts as given, and otherwise the single exported role.
-/
namespace FleetPlan

/-- A reference to another stack. -/
structure StackReference where
  stack : String
  /-- The exports as they arrive. -/
  exports : Entries Json

namespace StackReference

def ofSent (stack : String) (sent : Entries Json) : StackReference := ⟨stack, Json.wireEntries sent⟩

def ref (s : StackReference) : ResourceRef := ⟨"pulumi:pulumi:StackReference", s.stack⟩

/-- An export, null when it is missing. -/
def get (s : StackReference) (key : String) : Deferred Json :=
  ⟨.ok (.ofOption (Entries.get? s.exports key)), [s.ref]⟩

/-- An export that has to be there. -/
def require (s : StackReference) (key : String) : Deferred Json :=
  match Entries.get? s.exports key with
  | some v => ⟨.ok v, [s.ref]⟩
  | none => ⟨.error (.missingExport key), [s.ref]⟩

def admittedRoles (s : StackReference) : Deferred Json := do
  let roles ← s.get "eks_instance_role_arns"
  let role ← s.get "eks_node_role_arn"
  if roles.isTruthy then return .list (← Deferred.ofOption roles.items?)
  else return .list (if role.isTruthy then [role] else [])

def cluster (s : StackReference) : Cluster where
  name := .ofDeferred (s.require "eks_cluster_name")
  endpoint := .ofDeferred (s.require "eks_cluster_endpoint")
  authority := .ofDeferred (s.require "eks_cluster_ca_data")
  version := .ofDeferred (s.require "eks_cluster_version")
  network := .ofDeferred (s.require "vpc_id")
  controlGroup := .ofDeferred (s.require "eks_cluster_security_group_id")
  subnets := .ofDeferred (s.get "subnet_ids")
  privateSubnets := .ofDeferred (s.get "private_subnet_ids")
  publicSubnets := .ofDeferred (s.get "public_subnet_ids")
  profileArn := .ofDeferred (s.get "eks_node_instance_profile_arn")
  roleArns := .ofDeferred s.admittedRoles
  nodeGroup := .ofDeferred (s.get "node_security_group_id")
  nodeGroupTags := .ofDeferred (s.get "node_security_group_tags")
  tags := .ofDeferred (s.get "tags")
  networkPlugin := pure none
  nodeAccess := pure none

end StackReference
end FleetPlan
