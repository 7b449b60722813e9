import FleetPlan.Json.Collection
import FleetPlan.Request.ManagedOptions

/-!
Checks of options, made before anything is registered.

The first rule that is broken is reported, in the order in which the rules stand; a deferred value
counts as given, whatever it holds. Checks of values that are known only later take whatever those
turn out to be.
-/
namespace FleetPlan

def optionalIsTruthy (s : Option String) : Bool :=
  match s with
  | none => false
  | some s => s != ""

namespace WorkerOptions

/-- The bootstrap settings that an override would leave without effect. -/
def overridden (o : WorkerOptions) : List String :=
  let given : List (String × Bool) := [
    ("node_user_data", o.startup.userScript.isTruthy),
    ("labels", !(o.startup.agent.labels.getD []).isEmpty),
    ("taints", !(o.startup.agent.taints.getD []).isEmpty),
    ("kubelet_extra_args", optionalIsTruthy o.startup.agent.extraArgs),
    ("bootstrap_extra_args", optionalIsTruthy o.startup.bootstrapArgs)]
  (given.filter (·.2)).map (·.1)

def check (name : String) (o : WorkerOptions) : Except Failure Unit :=
  if o.access.publicKey.isTruthy ∧ o.access.keyName.isTruthy then
    .error (.conflict ["node_public_key", "key_name"]
      "mutually exclusive. Choose a single approach")
  else if o.machine.image.isTruthy ∧ o.machine.gpu then
    .error (.conflict ["ami_id", "gpu"] "mutually exclusive")
  else if o.startup.override.isTruthy ∧ o.overridden ≠ [] then
    .error (.conflict ("node_user_data_override" :: o.overridden)
      ("a user data override must perform the whole bootstrap and cannot be combined " ++
        "with generated user data settings"))
  else if o.firewall.group.isSome ∧ o.firewall.ingressRule.isNone then
    .error (.missing ["cluster_ingress_rule"]
      ("invalid args for node group " ++ name ++ ", cluster_ingress_rule is required " ++
        "when node_security_group is manually specified"))
  else o.volume.check

/-- The address of the profile of a group: its own, and otherwise the cluster's. -/
def profileArn (o : WorkerOptions) (default : Json) : Except Failure (Deferred Json) :=
  if o.profile.arn.isGiven then .ok o.profile.arn.value
  else if default.isTruthy then .ok (pure default)
  else .error (.missing ["instance_profile"] "an instance_profile is required")

end WorkerOptions

namespace ManagedOptions

def check (name : String) (o : ManagedOptions) : Except Failure Unit :=
  if o.role.isNone ∧ o.roleArn.isTruthy = false then
    .error (.missing ["node_role", "node_role_arn"]
      ("An IAM role, or role ARN must be provided to create managed node group " ++ name))
  else if o.role.isSome ∧ o.roleArn.isTruthy then
    .error (.conflict ["node_role", "node_role_arn"]
      "mutually exclusive to create a managed node group")
  else .ok ()

end ManagedOptions

/-- A group's own security group cannot be combined with tags that the cluster puts on another. -/
def checkGroupTags (group cluster tags : Json) : Except Failure Unit :=
  if group.isNull ∨ tags.isTruthy = false then .ok ()
  else if group.same cluster = false then
    .error (.conflict ["node_security_group", "node_security_group_tags"]
      ("The NodeGroup's node_security_group and the cluster option node_security_group_tags " ++
        "are mutually exclusive. Choose a single approach"))
  else .ok ()

/-- A role that is a member of the admitted ones, or a refusal. -/
def authorizedRole (arn admitted : Json) : Except Failure Json :=
  match Json.contains? admitted arn with
  | some true => .ok arn
  | some false => .error (.roleNotAuthorized arn)
  | none => .error .wrongKind

end FleetPlan
