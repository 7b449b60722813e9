import FleetPlan.Fleet.Preparation

/-!
Groups of nodes that are launched from a template and refreshed when it changes.

Truth values inside the template are texts and the script of the nodes is encoded; a price to bid is
part of the template only when one is given; the scaling group waits for what nodes need from the
cluster.
-/
namespace FleetPlan

structure TemplateGroup where
  group : Resource
  extraGroups : List Resource
  template : Resource
  scalingGroup : Resource

namespace TemplateGroup

def componentType : String := "eks:nodegroups:NodeGroupV2"

def flagText (b : Bool) : Json := .text (if b then "true" else "false")

/-- The encoded script of the nodes: the user's own, which has to be a text, or the bootstrap
script. -/
def userData (name : String) (p : Preparation) (o : TemplateOptions)
    (cluster : Deferred Cluster) : Deferred Json := do
  let script : Deferred Json :=
    if o.startup.override.isTruthy then o.startup.override.value
    else do return .text (← p.script o.toWorkerOptions cluster name none)
  match ← script with
  | .text script => return .text (Text.Base64.encodeText script)
  | _ => .fail .noSuchPart

def marketOptions (spotPrice : TextInput) : Deferred Json :=
  if spotPrice.isTruthy then do
    let price ← spotPrice.value
    return .map [("marketType", .text "spot"), ("spotOptions", .map [("maxPrice", price)])]
  else pure .null

def blockDevice (v : RootVolume) (device : Deferred Json) : Except Failure (Deferred Json) := do
  let iops ← Number.toInt? v.iops
  let throughput ← Number.toInt? v.throughput
  return do
    let device ← device
    return .map [
      ("deviceName", device),
      ("ebs", .map [
        ("encrypted", flagText v.encrypted),
        ("volumeSize", .int v.size),
        ("volumeType", .text v.type.code),
        ("iops", (iops.map Value.int).getD .null),
        ("throughput", (throughput.map Value.int).getD .null),
        ("deleteOnTermination", flagText v.deleteOnTermination)])]

/-- Ready-made blocks in a list, null when there is none. -/
def blockList : Option (List Block) → Deferred Json
  | none => pure .null
  | some bs => do return .list (← Deferred.all (bs.map Block.body))

def templateDraft (name : String) (o : TemplateOptions) (p : Preparation)
    (placement : Placement) (device userData : Deferred Json) : Draft where
  type := "aws:ec2/launchTemplate:LaunchTemplate"
  name := name ++ "-launchTemplate"
  placement := placement
  properties := [
    ("imageId", p.imageId),
    ("instanceType", o.machine.type.value),
    ("iamInstanceProfile", do return .map [("arn", ← p.profileArn)]),
    ("keyName", p.keyName),
    ("instanceMarketOptions", marketOptions o.machine.spotPrice),
    ("blockDeviceMappings", do return .list [← device]),
    ("networkInterfaces", do
      let groups ← p.groupIds
      return .list [.map [
        ("associatePublicIpAddress", flagText o.placement.publicAddress),
        ("securityGroups", groups)]]),
    ("userData", userData),
    ("tagSpecifications", blockList o.tagSpecifications)]

def scalingDraft (name : String) (o : TemplateOptions) (p : Preparation)
    (cluster : Deferred Cluster) (placement : Placement) (template : Resource) : Draft where
  type := "aws:autoscaling/group:Group"
  name := name
  placement := placement
  properties := [
    ("name", pure (.text name)),
    ("minSize", pure (.int p.capacity.range.least)),
    ("maxSize", pure (.int p.capacity.range.most)),
    ("desiredCapacity", pure (.int p.capacity.range.desired)),
    ("launchTemplate", do
      let templateName ← template.output "name"
      let version ← template.output "latestVersion"
      return .map [("name", templateName), ("version", .text version.display)]),
    ("vpcZoneIdentifiers", p.subnets),
    ("instanceRefresh", do
      let share ← o.healthyShare.resolve fun n => pure (.int n)
      return .map [("strategy", .text "Rolling"),
        ("preferences", .map [("minHealthyPercentage", share)])]),
    ("tags", do
      let tags ← Preparation.workerTags o.toWorkerOptions cluster
      return .list ((Tags.propagated tags).map Value.map))]
  after := p.dependencies

def create (name : String) (cluster : ClusterInput) (o : TemplateOptions)
    (placement : Placement) : Plan TemplateGroup := do
  Plan.ofExcept (o.toWorkerOptions.check name)
  let cluster := cluster.cluster
  let p ← Preparation.make name o.toWorkerOptions cluster placement
  let device ← rootDevice p.imageId placement
  let device ← Plan.ofExcept (blockDevice o.volume device)
  let template ← Plan.register
    (templateDraft name o p placement device (userData name p o cluster))
  let scalingGroup ← Plan.register (scalingDraft name o p cluster placement template)
  return {
    group := p.pair.group
    extraGroups := o.firewall.extraGroups
    template := template
    scalingGroup := scalingGroup }

/-- Plans a group as a component, whose options are checked before it is registered; the component
comes first in the result. -/
def component (name : String) (cluster : ClusterInput) (o : TemplateOptions)
    (provider : Option Resource) : Plan (Resource × TemplateGroup) := do
  Plan.ofExcept (o.toWorkerOptions.check name)
  let self ← Plan.register {
    type := componentType
    name := name
    placement := .top
    properties := []
    isComponent := true }
  let group ← create name cluster o ⟨some self, provider⟩
  Plan.publish self [
    ("node_security_group_id", group.group.output "id"),
    ("launch_template_id", group.template.output "id"),
    ("auto_scaling_group_name", group.scalingGroup.output "name")]
  return (self, group)

end TemplateGroup
end FleetPlan
