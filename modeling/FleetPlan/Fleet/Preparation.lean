import FleetPlan.Fleet.NodeSubnets
import FleetPlan.Fleet.SecurityGroups
import FleetPlan.Node.Image

/-!
What every group of one's own needs before its machines are described.

The group's own profile, version and image win over the cluster's; the image is looked up only when
none is given; the checks of the profile and of the security group are part of the values that they
guard.
-/
namespace FleetPlan

/-- The parts of a bootstrap script, each perhaps known only later; a null stack is not signalled. -/
structure ScriptSource where
  cluster : Deferred Json
  endpoint : Deferred Json
  authority : Deferred Json
  tail : String
  userScript : Deferred Json
  marker : Deferred Json
  signalStack : Deferred Json
  region : Deferred Json

def ScriptSource.script (s : ScriptSource) : Deferred BootstrapScript := do
  let cluster ← s.cluster
  let endpoint ← s.endpoint
  let authority ← s.authority
  let userScript ← s.userScript
  let marker ← s.marker
  let stack ← s.signalStack
  let region ← s.region
  return ⟨cluster, endpoint, authority, s.tail, userScript, marker,
    if stack.isNull then none else some ⟨stack, region⟩⟩

namespace Machine

/-- The image of a node: the one that is given, or the one recommended for the version. -/
def imageId (m : Machine) (version : Deferred Json) (placement : Placement) :
    Plan (Deferred Json) :=
  if m.image.isTruthy then return m.image.value
  else
    Plan.whenKnown version fun v => do
      let parameter := imageParameter v.display (imageFamily m.family m.gpu)
      let id ← Plan.askText placement (.parameter parameter) fun c => c.parameter parameter
      return pure id

end Machine

def rootDevice (image : Deferred Json) (placement : Placement) : Plan (Deferred Json) :=
  Plan.whenKnown image fun id => do
    match ← Plan.ask placement (.image id) fun c => c.devices id with
    | [] => Plan.fail .noDevice
    | device :: _ => return pure device.wire

/-- What is settled about a group before its machines are described. -/
structure Preparation where
  pair : GroupPair
  groupIds : Deferred Json
  profileArn : Deferred Json
  keyName : Deferred Json
  imageId : Deferred Json
  tail : String
  subnets : Deferred Json
  capacity : Capacity
  dependencies : Deferred (List Resource)

namespace Preparation

/-- The address of the profile, the group's own or else the cluster's. -/
def profileOf (o : WorkerOptions) (cluster : Deferred Cluster) : Deferred Json := do
  let clusterArn ← cluster.part Cluster.profileArn
  match o.profileArn clusterArn with
  | .ok arn => arn
  | .error e => .fail e

/-- The name of the key: that of a new pair when a public key is given. -/
def keyOf (name : String) (access : Access) (placement : Placement) : Plan (Deferred Json) :=
  if access.publicKey.isTruthy then do
    let pair ← Plan.register {
      type := "aws:ec2/keyPair:KeyPair"
      name := name ++ "-keyPair"
      placement := placement
      properties := [("publicKey", access.publicKey.value)] }
    return pair.output "keyName"
  else return access.keyName.value

/-- The version whose image is looked up: the group's own or else the cluster's. -/
def versionOf (m : Machine) (cluster : Deferred Cluster) : Deferred Json :=
  if m.version.isTruthy then m.version.value else cluster.part Cluster.version

def make (name : String) (o : WorkerOptions) (cluster : Deferred Cluster)
    (placement : Placement) : Plan Preparation := do
  let pair ← GroupPair.obtain name o.firewall cluster placement
  let keyName ← keyOf name o.access placement
  let imageId ← o.machine.imageId (versionOf o.machine cluster) placement
  let subnets ← workerSubnetIds o.placement.subnets.value? cluster placement
  return {
    pair := pair
    groupIds := do
      return .list (← Deferred.all
        (GroupPair.nodeGroupId pair o.firewall cluster :: o.firewall.extraGroups.map Resource.id))
    profileArn := profileOf o cluster
    keyName := keyName
    imageId := imageId
    tail := bootstrapTail o.startup.bootstrapArgs o.startup.agent.args
    subnets := subnets
    capacity := Capacity.of o.bounds o.machine.spotPrice.isTruthy .small
    dependencies := do (← cluster).fleetDependencies }

/-- The script that a group's nodes run, its marker given and perhaps a stack to signal. -/
def script (p : Preparation) (o : WorkerOptions) (cluster : Deferred Cluster) (marker : String)
    (signal : Option (String × Deferred Json)) : Deferred String := do
  let source : ScriptSource := {
    cluster := cluster.part Cluster.name
    endpoint := cluster.part Cluster.endpoint
    authority := cluster.part Cluster.authority
    tail := p.tail
    userScript := o.startup.userScript.value
    marker := pure (.text marker)
    signalStack := pure (.ofText (signal.map (·.1)))
    region := (signal.map (·.2)).getD (pure .null) }
  return (← source.script).render

def workerTags (o : WorkerOptions) (cluster : Deferred Cluster) : Deferred (Entries Json) := do
  let clusterName ← cluster.part Cluster.name
  let tags ← o.groupTags.value
  Deferred.ofOption (Tags.workers clusterName.display tags)

end Preparation
end FleetPlan
