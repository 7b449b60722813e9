import FleetPlan.Plan.Basic
import FleetPlan.Request.Setting
import FleetPlan.Stack.Settings

/-!
The provider that all groups of a stack share.

Configured tags win over the standard ones; a role is assumed only when one is configured, and its
arguments are secret when the identifier shown to its owner is. The settings of a provider may be any
values, known or deferred, but its tags have to be a map.
-/
namespace FleetPlan

/-- What a provider is made from. -/
structure ProviderSettings where
  clusterStack : Setting
  region : Setting
  roleArn : Setting
  externalId : Setting
  tags : Setting
  /-- Whether the identifier is kept secret. -/
  isSecret : Bool := false

namespace ProviderSettings

def neededFields : List String := ["cluster_stack", "aws_region"]

/-- All fields; the groups of a stack are of no concern to its provider. -/
def fields : List String :=
  neededFields ++ ["assume_role_arn", "external_id", "node_groups", "tags"]

def ofFields (es : Entries Setting) : Except Failure ProviderSettings := do
  checkFields fields neededFields es
  let part (key : String) : Setting := (Entries.get? es key).getD .null
  return {
    clusterStack := part "cluster_stack"
    region := part "aws_region"
    roleArn := part "assume_role_arn"
    externalId := part "external_id"
    tags := (Entries.get? es "tags").getD (.map []) }

def defaultTags (s : ProviderSettings) (stack : String) : Except Failure (Entries Setting) :=
  match s.tags with
  | .map es =>
    .ok (Entries.overlay
      (Entries.ofPairs
        [("ManagedBy", .text "Pulumi"), ("Stack", .text stack), ("ClusterStack", s.clusterStack)])
      es)
  | _ => .error .wrongKind

def assumedRoles (s : ProviderSettings) (stack : String) : Setting :=
  if s.roleArn.isTruthy then
    .list [.map [
      ("roleArn", s.roleArn),
      ("externalId", s.externalId),
      ("sessionName", .text ("nodegroups-" ++ stack)),
      ("duration", .text "1h")]]
  else .null

def draft (s : ProviderSettings) (stack : String) (tags : Entries Setting) : Draft where
  type := "pulumi:providers:aws"
  name := "nodegroups-aws"
  placement := .top
  properties := [
    ("region", s.region.deferred),
    ("assumeRoles", (s.assumedRoles stack).deferred),
    ("defaultTags", Setting.deferred (.map tags))]
  secret := if s.isSecret then ["assumeRoles"] else []
  written := ["assumeRoles", "defaultTags"]

def create (s : ProviderSettings) : Plan Resource := do
  let stack := (← Plan.site).stack
  let tags ← Plan.ofExcept (s.defaultTags stack)
  Plan.register (s.draft stack tags)

end ProviderSettings

/-- The settings of the provider of a configured stack. -/
def StackSettings.provider (s : StackSettings) : ProviderSettings where
  clusterStack := .text s.clusterStack
  region := .text s.region
  roleArn := .ofText s.roleArn
  externalId := .ofText s.externalId
  tags := .map (Entries.mapValues Value.text s.tags)
  isSecret := s.externalId.isSome

end FleetPlan
