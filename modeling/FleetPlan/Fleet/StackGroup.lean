import FleetPlan.Fleet.GroupTemplate
import FleetPlan.Fleet.Preparation

/-!
Groups of nodes whose scaling group is declared in the template of a stack.

A launch configuration describes the machines, and a stack holds the scaling group that refers to
it; the stack waits for what nodes need from the cluster; the name of the scaling group is an output
of the stack.
-/
namespace FleetPlan

structure StackGroup where
  group : Resource
  extraGroups : List Resource
  stack : Resource
  scalingGroupName : Deferred Json

namespace StackGroup

def componentType : String := "eks:nodegroups:NodeGroup"

/-- The script of the nodes: the user's own, or one that signals the stack. -/
def userData (p : Preparation) (o : WorkerOptions) (cluster : Deferred Cluster)
    (placement : Placement) (stack : String) : Plan (Deferred Json) :=
  if o.startup.override.isTruthy then return o.startup.override.value
  else do
    let region ← Plan.deferred (Plan.askText placement .region Cloud.region)
    return do return .text (← p.script o cluster stack (some (stack, region)))

def rootDeviceProperty (v : RootVolume) : Except Failure Json := do
  let iops ← Number.toInt? v.iops
  let throughput ← Number.toInt? v.throughput
  return .map [
    ("encrypted", .bool v.encrypted),
    ("volumeSize", .int v.size),
    ("volumeType", .text v.type.code),
    ("iops", (iops.map Value.int).getD .null),
    ("throughput", (throughput.map Value.int).getD .null),
    ("deleteOnTermination", .bool v.deleteOnTermination)]

def configurationDraft (name : String) (o : WorkerOptions) (p : Preparation)
    (placement : Placement) (rootDevice : Json) (userData : Deferred Json) : Draft where
  type := "aws:ec2/launchConfiguration:LaunchConfiguration"
  name := name ++ "-nodeLaunchConfiguration"
  placement := placement
  properties := [
    ("associatePublicIpAddress", pure (.bool o.placement.publicAddress)),
    ("imageId", p.imageId),
    ("instanceType", o.machine.type.value),
    ("iamInstanceProfile", p.profileArn),
    ("keyName", p.keyName),
    ("securityGroups", p.groupIds),
    ("spotPrice", o.machine.spotPrice.value),
    ("rootBlockDevice", pure rootDevice),
    ("userData", userData)]

/-- The text of the template that declares the scaling group. -/
def templateBody (o : WorkerOptions) (p : Preparation) (cluster : Deferred Cluster)
    (configuration : Resource) : Deferred Json := do
  let configurationName ← configuration.output "name"
  let subnets ← p.subnets
  let tags ← Preparation.workerTags o cluster
  let ids ← Deferred.ofOption subnets.items?
  return .text (GroupTemplate.text ⟨configurationName, p.capacity, ids, tags⟩)

def stackDraft (name stack : String) (o : WorkerOptions) (p : Preparation)
    (cluster : Deferred Cluster) (placement : Placement) (configuration : Resource) : Draft where
  type := "aws:cloudformation/stack:Stack"
  name := name ++ "-nodes"
  placement := placement
  properties := [
    ("name", pure (.text stack)),
    ("templateBody", templateBody o p cluster configuration),
    ("tags", do
      let clusterTags ← cluster.part Cluster.tags
      let asked ← o.stackTags.value
      return .map (← Deferred.ofOption (Tags.stack name asked clusterTags)))]
  after := p.dependencies

def create (name : String) (cluster : ClusterInput) (o : WorkerOptions) (placement : Placement) :
    Plan StackGroup := do
  Plan.ofExcept (o.check name)
  let cluster := cluster.cluster
  let p ← Preparation.make name o cluster placement
  let site ← Plan.site
  let stack := stackName site.project site.stack name
  let userData ← userData p o cluster placement stack
  let rootDevice ← Plan.ofExcept (rootDeviceProperty o.volume)
  let configuration ← Plan.register
    (configurationDraft name o p placement rootDevice userData)
  let stackResource ← Plan.register (stackDraft name stack o p cluster placement configuration)
  return {
    group := p.pair.group
    extraGroups := o.firewall.extraGroups
    stack := stackResource
    scalingGroupName := do
      Deferred.ofExcept (stackOutput stack (← stackResource.output "outputs") groupKey) }

/-- Plans a group as a component, whose options are checked before it is registered; the component
comes first in the result. -/
def component (name : String) (cluster : ClusterInput) (o : WorkerOptions)
    (provider : Option Resource) : Plan (Resource × StackGroup) := do
  Plan.ofExcept (o.check name)
  let self ← Plan.register {
    type := componentType
    name := name
    placement := .top
    properties := []
    isComponent := true }
  let group ← create name cluster o ⟨some self, provider⟩
  Plan.publish self [
    ("node_security_group_id", group.group.output "id"),
    ("cfn_stack_name", group.stack.output "name"),
    ("auto_scaling_group_name", group.scalingGroupName)]
  return (self, group)

end StackGroup
end FleetPlan
