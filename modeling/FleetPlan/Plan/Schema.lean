import FleetPlan.Plan.Deferred
import FleetPlan.Text.Casing

/-!
The forms of the properties of the cloud's types.

A property takes a single value, a list, a map of the user's own keys, or a record. Only a list can
have the wrong form: a single value is taken anywhere, and so is a map, whose members have any form
where no map is declared; what a type does not declare has any form too. The keys of a record may be
given with underscores.
-/
namespace FleetPlan

inductive Shape where
  | single
  | list (element : Shape)
  | map (value : Shape)
  | record (fields : List (String × Shape))

namespace Shape

def singles : Shape := list single

def table : Shape := map single

mutual

def fits : Json → Shape → Bool
  | .list vs, .list s => allFit vs s
  | .list _, _ => false
  | .map es, .map s => valuesFit es s
  | .map es, .record fields => membersFit es fields
  | _, _ => true

def allFit : List Json → Shape → Bool
  | [], _ => true
  | v :: vs, s => fits v s && allFit vs s

def valuesFit : List (String × Json) → Shape → Bool
  | [], _ => true
  | (_, v) :: es, s => fits v s && valuesFit es s

/-- Members that a record does not declare have any form. -/
def membersFit : List (String × Json) → List (String × Shape) → Bool
  | [], _ => true
  | (k, v) :: es, fields =>
    (match Entries.get? fields k with
      | some s => fits v s
      | none => true) && membersFit es fields

end

def keyOf (fields : List (String × Shape)) (key : String) : String :=
  if (Entries.get? fields (Text.toCamelCase key)).isSome then Text.toCamelCase key else key

mutual

/-- A value with the keys of its records as they are declared. -/
def spell : Json → Shape → Json
  | .list vs, .list s => .list (spellAll vs s)
  | .map es, .map s => .map (spellValues es s)
  | .map es, .record fields => .map (spellMembers es fields)
  | v, _ => v

def spellAll : List Json → Shape → List Json
  | [], _ => []
  | v :: vs, s => spell v s :: spellAll vs s

def spellValues : List (String × Json) → Shape → List (String × Json)
  | [], _ => []
  | (k, v) :: es, s => (k, spell v s) :: spellValues es s

def spellMembers : List (String × Json) → List (String × Shape) → List (String × Json)
  | [], _ => []
  | (k, v) :: es, fields =>
    (match Entries.get? fields (keyOf fields k) with
      | some s => (keyOf fields k, spell v s)
      | none => (k, v)) :: spellMembers es fields

end

theorem fits_text (s : String) (shape : Shape) : fits (.text s) shape = true := by
  cases shape <;> simp [fits]

theorem spell_text (s : String) (shape : Shape) : spell (.text s) shape = .text s := by
  cases shape <;> simp [spell]

end Shape

namespace ResourceRef

open Shape

/-- Rules of a security group, as they are listed in it. -/
def trafficShape : Shape := .list (.record [
  ("cidrBlocks", singles), ("description", single), ("fromPort", single),
  ("ipv6CidrBlocks", singles), ("prefixListIds", singles), ("protocol", single),
  ("securityGroups", singles), ("self", single), ("toPort", single)])

def singlesOf (keys : List String) : List (String × Shape) := keys.map fun key => (key, single)

def properties (r : ResourceRef) : List (String × Shape) :=
  match r.type with
  | "aws:ec2/securityGroup:SecurityGroup" =>
    singlesOf ["description", "name", "namePrefix", "revokeRulesOnDelete", "vpcId"] ++
      [("egress", trafficShape), ("ingress", trafficShape), ("tags", table)]
  | "aws:ec2/securityGroupRule:SecurityGroupRule" =>
    singlesOf ["description", "fromPort", "protocol", "securityGroupId", "self",
      "sourceSecurityGroupId", "toPort", "type"] ++
      [("cidrBlocks", singles), ("ipv6CidrBlocks", singles), ("prefixListIds", singles)]
  | "aws:iam/instanceProfile:InstanceProfile" =>
    singlesOf ["name", "namePrefix", "path", "role"] ++ [("tags", table)]
  | "aws:iam/role:Role" =>
    singlesOf ["assumeRolePolicy", "description", "forceDetachPolicies", "maxSessionDuration",
      "name", "namePrefix", "path", "permissionsBoundary"] ++
      [("inlinePolicies", .list (.record (singlesOf ["name", "policy"]))),
        ("managedPolicyArns", singles), ("tags", table)]
  | "aws:ec2/keyPair:KeyPair" => singlesOf ["publicKey"]
  | "aws:ec2/launchConfiguration:LaunchConfiguration" =>
    singlesOf ["iamInstanceProfile", "imageId", "instanceType", "keyName", "spotPrice",
      "userData"] ++ [("securityGroups", singles)]
  | "aws:cloudformation/stack:Stack" => singlesOf ["name", "templateBody"] ++ [("tags", table)]
  | "aws:ec2/launchTemplate:LaunchTemplate" =>
    singlesOf ["imageId", "instanceType", "keyName", "userData"] ++ [
      ("iamInstanceProfile", .record (singlesOf ["arn"])),
      ("instanceMarketOptions", .record [("spotOptions", .record (singlesOf ["maxPrice"]))]),
      ("blockDeviceMappings", .list (.record (singlesOf ["deviceName"]))),
      ("networkInterfaces", .list (.record [("securityGroups", singles)])),
      ("tagSpecifications", .list (.record [("resourceType", single), ("tags", table)]))]
  | "aws:autoscaling/group:Group" => [
      ("launchTemplate", .record (singlesOf ["id", "name", "version"])),
      ("vpcZoneIdentifiers", singles),
      ("instanceRefresh", .record [
        ("preferences", .record (singlesOf ["minHealthyPercentage"]))]),
      ("tags", .list (.record (singlesOf ["key", "value"])))]
  | "aws:eks/nodeGroup:NodeGroup" =>
    singlesOf ["clusterName", "nodeGroupName", "nodeRoleArn", "releaseVersion", "version"] ++ [
      ("subnetIds", singles),
      ("launchTemplate", .record (singlesOf ["id", "name", "version"])),
      ("remoteAccess", .record [("ec2SshKey", single), ("sourceSecurityGroupIds", singles)]),
      ("updateConfig", .record (singlesOf ["maxUnavailable", "maxUnavailablePercentage"]))]
  | "pulumi:providers:aws" => singlesOf ["region"]
  | _ => []

/-- The properties of a resource with the keys of their records as its type declares them. -/
def spelled (r : ResourceRef) (es : Entries Json) : Entries Json :=
  Shape.spellMembers es r.properties

/-- Whether the properties of a resource have the forms that its type declares. -/
def accepts (r : ResourceRef) (es : Entries Json) : Bool :=
  Shape.membersFit es r.properties

end ResourceRef
end FleetPlan
