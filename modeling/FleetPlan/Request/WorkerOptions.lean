import FleetPlan.Node.Bootstrap
import FleetPlan.Node.RootVolume
import FleetPlan.Request.Reader

/-!
Options of the groups of nodes that the user's stack runs itself.

A field that is not given has its default and a field that is not declared is a fault. All faults
are reported, those of declared fields first. A group launched from a template has two fields more
than one declared in the template of a stack.
-/
namespace FleetPlan

def ResourceRef.securityGroupType : String := "aws:ec2/securityGroup:SecurityGroup"

def ResourceRef.securityGroupRuleType : String := "aws:ec2/securityGroupRule:SecurityGroupRule"

def ResourceRef.instanceProfileType : String := "aws:iam/instanceProfile:InstanceProfile"

def ResourceRef.roleType : String := "aws:iam/role:Role"

/-- Where nodes are placed. -/
structure NodePlacement where
  subnets : ListInput
  publicAddress : Bool

/-- What kind of machine a node is. -/
structure Machine where
  type : TextInput
  spotPrice : TextInput
  image : TextInput
  family : Option String
  gpu : Bool
  version : TextInput

/-- The security groups of a node. -/
structure Firewall where
  group : Option Resource
  ingressRule : Option Resource
  extraGroups : List Resource

/-- How an operator reaches a node. -/
structure Access where
  publicKey : TextInput
  keyName : TextInput

/-- What a node runs when it starts. -/
structure Startup where
  userScript : TextInput
  override : TextInput
  agent : AgentSettings
  bootstrapArgs : Option String

/-- The identity of a node: a profile, the address of one, or none of its own. -/
inductive Profile where
  | none
  | resource (r : Resource)
  | address (x : TextInput)

structure WorkerOptions where
  placement : NodePlacement
  machine : Machine
  firewall : Firewall
  access : Access
  volume : RootVolume
  startup : Startup
  bounds : Bounds
  profile : Profile
  groupTags : TagsInput
  stackTags : TagsInput

/-- Options of a group that is launched from a template. -/
structure TemplateOptions extends WorkerOptions where
  /-- The least share of instances, in per cent, that stay healthy during a refresh. -/
  healthyShare : Input Int
  tagSpecifications : Option (List Block)

namespace Profile

def read : Reader Profile
  | .null => .ok .none
  | .leaf (.resource r) =>
    if r.ref.type = ResourceRef.instanceProfileType then .ok (.resource r)
    else .refuseAll [.wrongObject, .notText, .wrongObject]
  | v =>
    match Reader.textInput v with
    | .ok x => .ok (.address x)
    | .error fs => .error (⟨[], .wrongObject⟩ :: fs)

/-- The address of a profile, absent when there is none. -/
def arn : Profile → TextInput
  | none => .absent
  | resource r => .later (r.output "arn")
  | address x => x

end Profile

namespace WorkerOptions

def fields : List String := [
  "node_subnet_ids", "node_associate_public_ip_address", "instance_type", "spot_price", "ami_id",
  "ami_type", "gpu", "version", "node_security_group", "cluster_ingress_rule",
  "extra_node_security_groups", "node_public_key", "key_name", "node_root_volume_size",
  "node_root_volume_delete_on_termination", "node_root_volume_encrypted",
  "node_root_volume_iops", "node_root_volume_throughput", "node_root_volume_type",
  "node_user_data", "node_user_data_override", "labels", "taints", "kubelet_extra_args",
  "bootstrap_extra_args", "desired_capacity", "min_size", "max_size", "instance_profile",
  "auto_scaling_group_tags", "cloud_formation_tags"]

open Reader Checked

variable (es : Entries Setting)

def optionalText (key : String) : Checked (Option String) := field es key none (optional text)

def optionalInput (key : String) : Checked TextInput :=
  field es key Input.absent (absentOr textInput)

def optionalTags (key : String) : Checked TagsInput :=
  field es key Input.absent (absentOr tagsInput)

def optionalBound (key : String) (least : Int) : Checked (Option Int) :=
  field es key none (optional (integerFrom least))

def readPlacement : Checked NodePlacement :=
  apply
    ((field es "node_subnet_ids" Input.absent (absentOr listInput)).map NodePlacement.mk)
    (field es "node_associate_public_ip_address" true flag)

def readMachine : Checked Machine :=
  apply (apply (apply (apply (apply
    ((field es "instance_type" (.now (some "t2.medium")) textInput).map Machine.mk)
    (optionalInput es "spot_price"))
    (optionalInput es "ami_id"))
    (optionalText es "ami_type"))
    (field es "gpu" false flag))
    (optionalInput es "version")

def readFirewall : Checked Firewall :=
  let group := resource ResourceRef.securityGroupType
  apply (apply
    ((field es "node_security_group" none (optional group)).map Firewall.mk)
    (field es "cluster_ingress_rule" none
      (optional (resource ResourceRef.securityGroupRuleType))))
    (field es "extra_node_security_groups" [] (list group))

def readAccess : Checked Access :=
  apply ((optionalInput es "node_public_key").map Access.mk) (optionalInput es "key_name")

def readVolume : Checked RootVolume :=
  apply (apply (apply (apply (apply
    ((field es "node_root_volume_size" 20 (integerFrom 1)).map RootVolume.mk)
    (field es "node_root_volume_delete_on_termination" true flag))
    (field es "node_root_volume_encrypted" false flag))
    (field es "node_root_volume_iops" none (optional amount)))
    (field es "node_root_volume_throughput" none (optional amount)))
    (field es "node_root_volume_type" .gp2 (choice VolumeType.all VolumeType.code))

/-- The labels and taints, and then the arguments of the agent. -/
def readAgent : Checked AgentSettings :=
  apply (apply
    ((field es "labels" none (optional (map text))).map fun labels taints args =>
      AgentSettings.mk args labels taints)
    (field es "taints" none (optional (map Taint.read))))
    (optionalText es "kubelet_extra_args")

def readStartup : Checked Startup :=
  apply (apply (apply
    ((optionalInput es "node_user_data").map Startup.mk)
    (optionalInput es "node_user_data_override"))
    (readAgent es))
    (optionalText es "bootstrap_extra_args")

def readBounds : Checked Bounds :=
  apply (apply
    ((optionalBound es "desired_capacity" 0).map Bounds.mk)
    (optionalBound es "min_size" 0))
    (optionalBound es "max_size" 0)

def readFields : Checked WorkerOptions :=
  apply (apply (apply (apply (apply (apply (apply (apply (apply
    ((readPlacement es).map WorkerOptions.mk)
    (readMachine es))
    (readFirewall es))
    (readAccess es))
    (readVolume es))
    (readStartup es))
    (readBounds es))
    (field es "instance_profile" .none Profile.read))
    (optionalTags es "auto_scaling_group_tags"))
    (optionalTags es "cloud_formation_tags")

def ofFields : Checked WorkerOptions := withFaults (readFields es) (strangers fields es)

end WorkerOptions

namespace TemplateOptions

def fields : List String :=
  WorkerOptions.fields ++ ["min_refresh_percentage", "launch_template_tag_specifications"]

open Reader Checked

def readFields (es : Entries Setting) : Checked TemplateOptions :=
  apply (apply
    ((WorkerOptions.readFields es).map TemplateOptions.mk)
    (field es "min_refresh_percentage" (.now 50) integerInput))
    (field es "launch_template_tag_specifications" none
      (optional (list (block .templateTags))))

def ofFields (es : Entries Setting) : Checked TemplateOptions :=
  withFaults (readFields es) (strangers fields es)

end TemplateOptions
end FleetPlan
