import FleetPlan.Request.WorkerOptions

/-!
Options of the groups of nodes that the cloud manages.

Fields have defaults and faults as in the other requests. The role of a group is a resource or the
address of one; the options themselves do not say which.
-/
namespace FleetPlan

/-- How the capacity of a managed group is bought. -/
inductive Purchase where
  | onDemand
  | spot
  deriving DecidableEq, Repr

namespace Purchase

def all : List Purchase := [onDemand, spot]

def code : Purchase → String
  | onDemand => "ON_DEMAND"
  | spot => "SPOT"

end Purchase

/-- The images that a managed group may run. -/
inductive ManagedImage where
  | al2
  | al2Gpu
  | al2Arm
  | al2023
  | al2023Arm
  | bottlerocket
  | bottlerocketArm
  deriving DecidableEq, Repr

namespace ManagedImage

def all : List ManagedImage :=
  [al2, al2Gpu, al2Arm, al2023, al2023Arm, bottlerocket, bottlerocketArm]

def code : ManagedImage → String
  | al2 => "AL2_x86_64"
  | al2Gpu => "AL2_x86_64_GPU"
  | al2Arm => "AL2_ARM_64"
  | al2023 => "AL2023_x86_64_STANDARD"
  | al2023Arm => "AL2023_ARM_64_STANDARD"
  | bottlerocket => "BOTTLEROCKET_x86_64"
  | bottlerocketArm => "BOTTLEROCKET_ARM_64"

end ManagedImage

structure ManagedOptions where
  groupName : TextInput
  clusterName : TextInput
  role : Option Resource
  roleArn : TextInput
  subnets : ListInput
  scaling : Option Bounds
  instanceTypes : Option (List String)
  purchase : Option Purchase
  image : Option ManagedImage
  diskSize : Option Int
  releaseVersion : TextInput
  version : TextInput
  forceUpdate : Option Bool
  labels : Option (Entries String)
  taints : Option (Entries Taint)
  launchTemplate : Option Block
  remoteAccess : Option Block
  updatePolicy : Option Block
  tags : Entries String

namespace ManagedOptions

def fields : List String := [
  "node_group_name", "cluster_name", "node_role", "node_role_arn", "subnet_ids",
  "scaling_config", "instance_types", "capacity_type", "ami_type", "disk_size",
  "release_version", "version", "force_update_version", "labels", "taints", "launch_template",
  "remote_access", "update_config", "tags"]

open Reader Checked WorkerOptions

variable (es : Entries Setting)

def optionalBlock (key : String) (kind : BlockKind) : Checked (Option Block) :=
  field es key none (optional (block kind))

def readFields : Checked ManagedOptions :=
  apply (apply (apply (apply (apply (apply (apply (apply (apply (apply (apply (apply (apply
    (apply (apply (apply (apply (apply
    ((optionalInput es "node_group_name").map ManagedOptions.mk)
    (optionalInput es "cluster_name"))
    (field es "node_role" none (optional (resource ResourceRef.roleType))))
    (optionalInput es "node_role_arn"))
    (field es "subnet_ids" Input.absent (absentOr listInput)))
    (field es "scaling_config" none (optional Bounds.readScaling)))
    (field es "instance_types" none (optional (list text))))
    (field es "capacity_type" none (optional (choice Purchase.all Purchase.code))))
    (field es "ami_type" none (optional (choice ManagedImage.all ManagedImage.code))))
    (optionalBound es "disk_size" 1))
    (optionalInput es "release_version"))
    (optionalInput es "version"))
    (field es "force_update_version" none (optional flag)))
    (field es "labels" none (optional (map text))))
    (field es "taints" none (optional (map Taint.read))))
    (optionalBlock es "launch_template" .launchTemplate))
    (optionalBlock es "remote_access" .remoteAccess))
    (optionalBlock es "update_config" .updatePolicy))
    (field es "tags" [] (map text))

def ofFields : Checked ManagedOptions := withFaults (readFields es) (strangers fields es)

end ManagedOptions
end FleetPlan
