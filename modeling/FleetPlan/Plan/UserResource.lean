import FleetPlan.Plan.Basic
import FleetPlan.Request.WorkerOptions
import FleetPlan.Text.Casing

/-!
Resources that the user plans beside the groups: those that options may hold, and others of the
user's own types.

A type of the cloud declares its properties, and some of them have to be there; a property that is
null counts as left out, but a deferred one counts as given whatever it holds. A type of the user's
own takes any properties and keeps their names.
-/
namespace FleetPlan

inductive UserResource where
  | securityGroup
  | securityGroupRule
  | instanceProfile
  | role
  /-- A component of the user's own type. -/
  | component (type : String)
  /-- Any other resource of the user's own type. -/
  | custom (type : String)
  deriving DecidableEq, Repr

namespace UserResource

def type : UserResource → String
  | securityGroup => ResourceRef.securityGroupType
  | securityGroupRule => ResourceRef.securityGroupRuleType
  | instanceProfile => ResourceRef.instanceProfileType
  | role => ResourceRef.roleType
  | component type => type
  | custom type => type

def isComponent : UserResource → Bool
  | component _ => true
  | _ => false

/-- The properties that a type declares; a type of the user's own declares none and takes any. -/
def declared? : UserResource → Option (List String)
  | securityGroup => some [
      "description", "egress", "ingress", "name", "name_prefix", "region",
      "revoke_rules_on_delete", "tags", "vpc_id"]
  | securityGroupRule => some [
      "cidr_blocks", "description", "from_port", "ipv6_cidr_blocks", "prefix_list_ids", "protocol",
      "region", "security_group_id", "self", "source_security_group_id", "to_port", "type"]
  | instanceProfile => some ["name", "name_prefix", "path", "role", "tags"]
  | role => some [
      "assume_role_policy", "description", "force_detach_policies", "inline_policies",
      "managed_policy_arns", "max_session_duration", "name", "name_prefix", "path",
      "permissions_boundary", "tags"]
  | component _ => none
  | custom _ => none

def needed : UserResource → List String
  | securityGroupRule => ["from_port", "protocol", "security_group_id", "to_port", "type"]
  | role => ["assume_role_policy"]
  | _ => []

/-- What stands for a property that is left out. -/
def defaults : UserResource → Entries Setting
  | securityGroup => [("description", .text "Managed by Pulumi")]
  | _ => []

def propertyName (kind : UserResource) (key : String) : String :=
  if kind.declared?.isSome then Text.toCamelCase key else key

/-- The properties that are given, and the defaults of those that are left out. A type of the user's
own has all the properties that it is given, null ones too. -/
def complete (kind : UserResource) (properties : Entries Setting) : Entries Setting :=
  let given := properties.filter fun e => kind.declared?.isNone || !e.2.isNull
  given ++ kind.defaults.filter fun e => (Entries.get? given e.1).isNone

def draft (kind : UserResource) (name : String) (placement : Placement)
    (properties : Entries Setting) : Draft where
  type := kind.type
  name := name
  placement := placement
  properties := properties.map fun e => (kind.propertyName e.1, e.2.deferred)
  isComponent := kind.isComponent

/-- Plans a resource whose properties are all declared and of which the needed ones are there. -/
def plan (kind : UserResource) (name : String) (placement : Placement)
    (properties : Entries Setting) : Plan Resource :=
  let complete := kind.complete properties
  let strange := (Entries.keys properties).find? fun key =>
    (kind.declared?.map fun keys => !keys.contains key).getD false
  match strange, kind.needed.find? fun key => (Entries.get? complete key).isNone with
  | some key, _ => Plan.fail (.unknownField key)
  | none, some key => Plan.fail (.incomplete key)
  | none, none => Plan.register (kind.draft name placement complete)

end UserResource
end FleetPlan
