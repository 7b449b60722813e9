import FleetPlan.Request.ManagedOptions

/-!
Options written back as the settings of a request.

Every declared field is written, in order and with its value in force; what is deferred stays
deferred.
-/
namespace FleetPlan

namespace Setting

def ofOption {α : Type} (f : α → Setting) : Option α → Setting
  | none => .null
  | some a => f a

/-- An input at hand, or a handle to the value it comes to. -/
def ofInput {α : Type} (now : α → Setting) : Input α → Setting
  | .now a => now a
  | .later d => ofDeferred d

def ofTextInput : TextInput → Setting := ofInput (ofOption Value.text)

def ofElement : Input String → Setting := ofInput Value.text

def ofListInput : ListInput → Setting :=
  ofInput (ofOption fun xs => .list (xs.map ofElement))

def ofTagsInput : TagsInput → Setting :=
  ofInput (ofOption fun es => .map (Entries.mapValues ofElement es))

def ofResource (r : Resource) : Setting := .leaf (.resource r)

def ofBlock (b : Block) : Setting := .leaf (.block b)

def ofTexts (es : Entries String) : Setting := .map (Entries.mapValues Value.text es)

def ofTaints (es : Entries Taint) : Setting :=
  .map (Entries.mapValues (fun t => .leaf (.taint t)) es)

end Setting

open Setting

def Profile.toSetting : Profile → Setting
  | none => .null
  | resource r => ofResource r
  | address x => ofTextInput x

namespace WorkerOptions

def toEntries (o : WorkerOptions) : Entries Setting := [
  ("node_subnet_ids", ofListInput o.placement.subnets),
  ("node_associate_public_ip_address", .bool o.placement.publicAddress),
  ("instance_type", ofTextInput o.machine.type),
  ("spot_price", ofTextInput o.machine.spotPrice),
  ("ami_id", ofTextInput o.machine.image),
  ("ami_type", ofOption Value.text o.machine.family),
  ("gpu", .bool o.machine.gpu),
  ("version", ofTextInput o.machine.version),
  ("node_security_group", ofOption ofResource o.firewall.group),
  ("cluster_ingress_rule", ofOption ofResource o.firewall.ingressRule),
  ("extra_node_security_groups", .list (o.firewall.extraGroups.map ofResource)),
  ("node_public_key", ofTextInput o.access.publicKey),
  ("key_name", ofTextInput o.access.keyName),
  ("node_root_volume_size", .int o.volume.size),
  ("node_root_volume_delete_on_termination", .bool o.volume.deleteOnTermination),
  ("node_root_volume_encrypted", .bool o.volume.encrypted),
  ("node_root_volume_iops", ofOption Value.number o.volume.iops),
  ("node_root_volume_throughput", ofOption Value.number o.volume.throughput),
  ("node_root_volume_type", .text o.volume.type.code),
  ("node_user_data", ofTextInput o.startup.userScript),
  ("node_user_data_override", ofTextInput o.startup.override),
  ("labels", ofOption ofTexts o.startup.agent.labels),
  ("taints", ofOption ofTaints o.startup.agent.taints),
  ("kubelet_extra_args", ofOption Value.text o.startup.agent.extraArgs),
  ("bootstrap_extra_args", ofOption Value.text o.startup.bootstrapArgs),
  ("desired_capacity", Bounds.optionalInt o.bounds.desired),
  ("min_size", Bounds.optionalInt o.bounds.least),
  ("max_size", Bounds.optionalInt o.bounds.most),
  ("instance_profile", o.profile.toSetting),
  ("auto_scaling_group_tags", ofTagsInput o.groupTags),
  ("cloud_formation_tags", ofTagsInput o.stackTags)]

end WorkerOptions

def TemplateOptions.toEntries (o : TemplateOptions) : Entries Setting :=
  o.toWorkerOptions.toEntries ++ [
    ("min_refresh_percentage", ofInput Value.int o.healthyShare),
    ("launch_template_tag_specifications",
      ofOption (fun bs => .list (bs.map ofBlock)) o.tagSpecifications)]

def ManagedOptions.toEntries (o : ManagedOptions) : Entries Setting := [
  ("node_group_name", ofTextInput o.groupName),
  ("cluster_name", ofTextInput o.clusterName),
  ("node_role", ofOption ofResource o.role),
  ("node_role_arn", ofTextInput o.roleArn),
  ("subnet_ids", ofListInput o.subnets),
  ("scaling_config", ofOption (fun b => .leaf (.scaling b)) o.scaling),
  ("instance_types", ofOption (fun ts => .list (ts.map Value.text)) o.instanceTypes),
  ("capacity_type", ofOption (fun p => .text p.code) o.purchase),
  ("ami_type", ofOption (fun i => .text i.code) o.image),
  ("disk_size", Bounds.optionalInt o.diskSize),
  ("release_version", ofTextInput o.releaseVersion),
  ("version", ofTextInput o.version),
  ("force_update_version", ofOption Value.bool o.forceUpdate),
  ("labels", ofOption ofTexts o.labels),
  ("taints", ofOption ofTaints o.taints),
  ("launch_template", ofOption ofBlock o.launchTemplate),
  ("remote_access", ofOption ofBlock o.remoteAccess),
  ("update_config", ofOption ofBlock o.updatePolicy),
  ("tags", ofTexts o.tags)]

end FleetPlan
