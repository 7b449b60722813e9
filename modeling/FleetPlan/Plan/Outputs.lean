import FleetPlan.Plan.Resource

/-!
What a new resource puts out, as the plan reads it.

Everything arrives as it travelled, but the outputs that a type declares as integers are integers
again; beside them each resource has a name that is unique in its stack and says what it stands
below. A component has no id.
-/
namespace FleetPlan

namespace ResourceRef

def stackType : String := "pulumi:pulumi:Stack"

/-- The unique name of a resource: its stack and project, its parent's type and its own, and its
name. -/
def urn (project stack : String) (parent : Option ResourceRef) (r : ResourceRef) : String :=
  "urn:pulumi:" ++ stack ++ "::" ++ project ++ "::" ++
    (parent.map ResourceRef.type).getD stackType ++ "$" ++ r.type ++ "::" ++ r.name

/-- The outputs that a type declares; a type that declares none puts out what it is given. -/
def declaredOutputs? (r : ResourceRef) : Option (List String) :=
  match r.type with
  | "aws:ec2/securityGroup:SecurityGroup" => some [
      "arn", "description", "egress", "ingress", "name", "namePrefix", "ownerId", "region",
      "revokeRulesOnDelete", "tags", "tagsAll", "vpcId"]
  | "aws:ec2/securityGroupRule:SecurityGroupRule" => some [
      "cidrBlocks", "description", "fromPort", "ipv6CidrBlocks", "prefixListIds", "protocol",
      "region", "securityGroupId", "securityGroupRuleId", "self", "sourceSecurityGroupId",
      "toPort", "type"]
  | "aws:iam/instanceProfile:InstanceProfile" => some [
      "arn", "createDate", "name", "namePrefix", "path", "role", "tags", "tagsAll", "uniqueId"]
  | "aws:iam/role:Role" => some [
      "arn", "assumeRolePolicy", "createDate", "description", "forceDetachPolicies",
      "inlinePolicies", "managedPolicyArns", "maxSessionDuration", "name", "namePrefix", "path",
      "permissionsBoundary", "tags", "tagsAll", "uniqueId"]
  | "aws:eks/nodeGroup:NodeGroup" => some [
      "amiType", "arn", "capacityType", "clusterName", "diskSize", "forceUpdateVersion",
      "instanceTypes", "labels", "launchTemplate", "nodeGroupName", "nodeGroupNamePrefix",
      "nodeRepairConfig", "nodeRoleArn", "region", "releaseVersion", "remoteAccess", "resources",
      "scalingConfig", "status", "subnetIds", "tags", "tagsAll", "taints", "updateConfig",
      "version"]
  | _ => none

def integerOutputs (r : ResourceRef) : List String :=
  match r.type with
  | "aws:ec2/launchTemplate:LaunchTemplate" => ["latestVersion", "defaultVersion"]
  | "aws:ec2/securityGroupRule:SecurityGroupRule" => ["fromPort", "toPort"]
  | "aws:autoscaling/group:Group" => ["minSize", "maxSize", "desiredCapacity"]
  | "aws:eks/nodeGroup:NodeGroup" => ["diskSize"]
  | "aws:iam/role:Role" => ["maxSessionDuration"]
  | _ => []

end ResourceRef

/-- A number without its fraction; any other value stays. -/
def Json.integerPart : Json → Json
  | .number (.float x) => (x.truncate?.map Value.int).getD (.float x)
  | v => v

def Draft.offered (d : Draft) : List String :=
  d.ref.declaredOutputs?.getD (Entries.keys d.properties)

/-- The outputs of a resource, from those that the cloud sends. -/
def Draft.outputs (d : Draft) (urn : String) (sent : Entries Json) : Entries Json :=
  let arrived := (Json.wireEntries sent).map fun e =>
    (e.1, if d.ref.integerOutputs.contains e.1 then e.2.integerPart else e.2)
  Entries.put (if d.isComponent then Entries.erase arrived "id" else arrived) "urn" (.text urn)

end FleetPlan
