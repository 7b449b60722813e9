import FleetPlan.Proofs.OptionTypes
import FleetPlan.Request.Written
import FleetPlan.Stack.GroupList
import Mathlib.Data.List.Basic

/-!
The declared fields of options as a table.

A rule says how one field is read and written, and options assign a value to each of the rules of their
kind. Options are read from settings exactly if every rule reads its value there, and otherwise the
faults of the rules are reported in order. So what holds of every rule holds of options of every kind.
-/
namespace FleetPlan

open Reader Checked Setting

/-- A declared field: its key, its value when it is not given, how a setting is read for it and how
its value is written back. -/
structure FieldRule where
  Value : Type
  key : String
  default : Value
  read : Reader Value
  write : Value → Setting

namespace FieldRule

/-- What a field makes of some settings. -/
def value (r : FieldRule) (es : Entries Setting) : Checked r.Value :=
  field es r.key r.default r.read

def ofText (key : String) : FieldRule :=
  ⟨Option String, key, none, optional text, ofOption Value.text⟩

def ofInput (key : String) : FieldRule :=
  ⟨TextInput, key, Input.absent, absentOr textInput, ofTextInput⟩

def ofList (key : String) : FieldRule :=
  ⟨ListInput, key, Input.absent, absentOr listInput, ofListInput⟩

def ofTags (key : String) : FieldRule :=
  ⟨TagsInput, key, Input.absent, absentOr tagsInput, ofTagsInput⟩

def ofFlag (key : String) (default : Bool) : FieldRule :=
  ⟨Bool, key, default, flag, Value.bool⟩

def ofBound (key : String) (least : Int) : FieldRule :=
  ⟨Option Int, key, none, optional (integerFrom least), Bounds.optionalInt⟩

def ofAmount (key : String) : FieldRule :=
  ⟨Option Number, key, none, optional amount, ofOption Value.number⟩

/-- One of several texts, or none. -/
def ofChoice {α : Type} (key : String) (all : List α) (code : α → String) : FieldRule :=
  ⟨Option α, key, none, optional (choice all code), ofOption fun a => .text (code a)⟩

def ofResource (key type : String) : FieldRule :=
  ⟨Option Resource, key, none, optional (resource type), ofOption Setting.ofResource⟩

def ofBlock (key : String) (kind : BlockKind) : FieldRule :=
  ⟨Option Block, key, none, optional (block kind), ofOption Setting.ofBlock⟩

def ofLabels (key : String) : FieldRule :=
  ⟨Option (Entries String), key, none, optional (map text), ofOption ofTexts⟩

def ofTaints (key : String) : FieldRule :=
  ⟨Option (Entries Taint), key, none, optional (map Taint.read), ofOption Setting.ofTaints⟩

def machineType : FieldRule :=
  ⟨TextInput, "instance_type", .now (some "t2.medium"), textInput, ofTextInput⟩

def extraGroups : FieldRule :=
  ⟨List Resource, "extra_node_security_groups", [],
    list (resource ResourceRef.securityGroupType), fun rs => .list (rs.map Setting.ofResource)⟩

def volumeSize : FieldRule := ⟨Int, "node_root_volume_size", 20, integerFrom 1, Value.int⟩

def volumeType : FieldRule :=
  ⟨VolumeType, "node_root_volume_type", .gp2, choice VolumeType.all VolumeType.code,
    fun t => .text t.code⟩

def profile : FieldRule := ⟨Profile, "instance_profile", .none, Profile.read, Profile.toSetting⟩

def healthyShare : FieldRule :=
  ⟨Input Int, "min_refresh_percentage", .now 50, integerInput, Setting.ofInput Value.int⟩

def tagSpecifications : FieldRule :=
  ⟨Option (List Block), "launch_template_tag_specifications", none,
    optional (list (block .templateTags)), ofOption fun bs => .list (bs.map Setting.ofBlock)⟩

def scaling : FieldRule :=
  ⟨Option Bounds, "scaling_config", none, optional Bounds.readScaling,
    ofOption fun b => .leaf (.scaling b)⟩

def instanceTypes : FieldRule :=
  ⟨Option (List String), "instance_types", none, optional (list text),
    ofOption fun ts => .list (ts.map Value.text)⟩

def forceUpdate : FieldRule :=
  ⟨Option Bool, "force_update_version", none, optional flag, ofOption Value.bool⟩

def tags : FieldRule := ⟨Entries String, "tags", [], map text, ofTexts⟩

end FieldRule

namespace WorkerOptions

def placementRules : List FieldRule :=
  [.ofList "node_subnet_ids", .ofFlag "node_associate_public_ip_address" true]

def machineRules : List FieldRule := [
  .machineType, .ofInput "spot_price", .ofInput "ami_id", .ofText "ami_type", .ofFlag "gpu" false,
  .ofInput "version"]

def firewallRules : List FieldRule := [
  .ofResource "node_security_group" ResourceRef.securityGroupType,
  .ofResource "cluster_ingress_rule" ResourceRef.securityGroupRuleType, .extraGroups]

def accessRules : List FieldRule := [.ofInput "node_public_key", .ofInput "key_name"]

def volumeRules : List FieldRule := [
  .volumeSize, .ofFlag "node_root_volume_delete_on_termination" true,
  .ofFlag "node_root_volume_encrypted" false, .ofAmount "node_root_volume_iops",
  .ofAmount "node_root_volume_throughput", .volumeType]

def startupRules : List FieldRule := [
  .ofInput "node_user_data", .ofInput "node_user_data_override", .ofLabels "labels",
  .ofTaints "taints", .ofText "kubelet_extra_args", .ofText "bootstrap_extra_args"]

def boundsRules : List FieldRule :=
  [.ofBound "desired_capacity" 0, .ofBound "min_size" 0, .ofBound "max_size" 0]

def identityRules : List FieldRule :=
  [.profile, .ofTags "auto_scaling_group_tags", .ofTags "cloud_formation_tags"]

def rules : List FieldRule :=
  placementRules ++ machineRules ++ firewallRules ++ accessRules ++ volumeRules ++ startupRules ++
    boundsRules ++ identityRules

end WorkerOptions

def TemplateOptions.rules : List FieldRule :=
  WorkerOptions.rules ++ [.healthyShare, .tagSpecifications]

def ManagedOptions.rules : List FieldRule := [
  .ofInput "node_group_name", .ofInput "cluster_name",
  .ofResource "node_role" ResourceRef.roleType, .ofInput "node_role_arn", .ofList "subnet_ids",
  .scaling, .instanceTypes, .ofChoice "capacity_type" Purchase.all Purchase.code,
  .ofChoice "ami_type" ManagedImage.all ManagedImage.code, .ofBound "disk_size" 1,
  .ofInput "release_version", .ofInput "version", .forceUpdate,
  .ofLabels "labels", .ofTaints "taints", .ofBlock "launch_template" .launchTemplate,
  .ofBlock "remote_access" .remoteAccess, .ofBlock "update_config" .updatePolicy, .tags]

section Faults

variable {α β : Type}

theorem Checked.faults_map (x : Checked α) (f : α → β) : faults (x.map f) = x.faults := by
  cases x <;> rfl

theorem Checked.map_ok {x : Checked α} {a : α} {f : α → β} (h : x = .ok a) :
    x.map f = .ok (f a) := by
  rw [h]
  rfl

theorem Checked.apply_ok {f : Checked (α → β)} {x : Checked α} {g : α → β} {a : α}
    (hf : f = .ok g) (hx : x = .ok a) : apply f x = .ok (g a) :=
  apply_eq_ok.mpr ⟨g, a, hf, hx, rfl⟩

theorem Checked.faults_withFaults (x : Checked α) (more : List FieldFault) :
    (withFaults x more).faults = x.faults ++ more := by
  cases x <;> cases more <;> simp [withFaults, faults]

theorem Checked.withFaults_eq_ok_iff {x : Checked α} {more : List FieldFault} {a : α} :
    withFaults x more = .ok a ↔ x = .ok a ∧ more = [] := by
  cases x <;> cases more <;> simp [withFaults]

theorem Reader.strangers_eq_nil {declared : List String} {es : Entries Setting} :
    strangers declared es = [] ↔ ∀ k ∈ Entries.keys es, k ∈ declared := by
  simp [strangers, Entries.keys]

end Faults

/-- The faults of some fields, in order. -/
def FieldRule.faultsOf (rules : List FieldRule) (es : Entries Setting) : List FieldFault :=
  rules.flatMap fun r => (r.value es).faults

theorem FieldRule.faultsOf_nil (es : Entries Setting) : faultsOf [] es = [] := rfl

theorem FieldRule.faultsOf_cons (r : FieldRule) (rules : List FieldRule) (es : Entries Setting) :
    faultsOf (r :: rules) es = (r.value es).faults ++ faultsOf rules es :=
  List.flatMap_cons

theorem FieldRule.faultsOf_append (rules more : List FieldRule) (es : Entries Setting) :
    faultsOf (rules ++ more) es = faultsOf rules es ++ faultsOf more es :=
  List.flatMap_append

variable (es : Entries Setting)

namespace WorkerOptions

theorem faults_readPlacement : (readPlacement es).faults = FieldRule.faultsOf placementRules es := by
  simp only [readPlacement, placementRules, faults_apply, faults_map, FieldRule.faultsOf_cons,
    FieldRule.faultsOf_nil, List.append_nil]
  rfl

theorem faults_readMachine : (readMachine es).faults = FieldRule.faultsOf machineRules es := by
  simp only [readMachine, machineRules, faults_apply, faults_map, FieldRule.faultsOf_cons,
    FieldRule.faultsOf_nil, List.append_nil, List.append_assoc]
  rfl

theorem faults_readFirewall : (readFirewall es).faults = FieldRule.faultsOf firewallRules es := by
  simp only [readFirewall, firewallRules, faults_apply, faults_map, FieldRule.faultsOf_cons,
    FieldRule.faultsOf_nil, List.append_nil, List.append_assoc]
  rfl

theorem faults_readAccess : (readAccess es).faults = FieldRule.faultsOf accessRules es := by
  simp only [readAccess, accessRules, faults_apply, faults_map, FieldRule.faultsOf_cons,
    FieldRule.faultsOf_nil, List.append_nil]
  rfl

theorem faults_readVolume : (readVolume es).faults = FieldRule.faultsOf volumeRules es := by
  simp only [readVolume, volumeRules, faults_apply, faults_map, FieldRule.faultsOf_cons,
    FieldRule.faultsOf_nil, List.append_nil, List.append_assoc]
  rfl

theorem faults_readStartup : (readStartup es).faults = FieldRule.faultsOf startupRules es := by
  simp only [readStartup, readAgent, startupRules, faults_apply, faults_map, FieldRule.faultsOf_cons,
    FieldRule.faultsOf_nil, List.append_nil, List.append_assoc]
  rfl

theorem faults_readBounds : (readBounds es).faults = FieldRule.faultsOf boundsRules es := by
  simp only [readBounds, boundsRules, faults_apply, faults_map, FieldRule.faultsOf_cons,
    FieldRule.faultsOf_nil, List.append_nil, List.append_assoc]
  rfl

theorem faults_readFields : (readFields es).faults = FieldRule.faultsOf rules es := by
  simp only [readFields, rules, faults_apply, faults_map, FieldRule.faultsOf_append,
    faults_readPlacement, faults_readMachine, faults_readFirewall, faults_readAccess,
    faults_readVolume, faults_readStartup, faults_readBounds, identityRules,
    FieldRule.faultsOf_cons, FieldRule.faultsOf_nil, List.append_nil, List.append_assoc]
  rfl

end WorkerOptions

theorem TemplateOptions.faults_readFields :
    (readFields es).faults = FieldRule.faultsOf rules es := by
  simp only [readFields, rules, faults_apply, faults_map, FieldRule.faultsOf_append,
    WorkerOptions.faults_readFields, FieldRule.faultsOf_cons, FieldRule.faultsOf_nil,
    List.append_nil, List.append_assoc]
  rfl

theorem ManagedOptions.faults_readFields :
    (readFields es).faults = FieldRule.faultsOf rules es := by
  simp only [readFields, rules, faults_apply, faults_map, FieldRule.faultsOf_cons,
    FieldRule.faultsOf_nil, List.append_nil, List.append_assoc]
  rfl

/-- A declared field with its value. -/
structure FieldValue where
  rule : FieldRule
  value : rule.Value

namespace FieldValue

def entry (v : FieldValue) : String × Setting := (v.rule.key, v.rule.write v.value)

/-- The value is what the field makes of some settings. -/
def IsReadFrom (es : Entries Setting) (v : FieldValue) : Prop := v.rule.value es = .ok v.value

end FieldValue

namespace WorkerOptions

def placementValues (p : NodePlacement) : List FieldValue := [
  ⟨.ofList "node_subnet_ids", p.subnets⟩,
  ⟨.ofFlag "node_associate_public_ip_address" true, p.publicAddress⟩]

def machineValues (m : Machine) : List FieldValue := [
  ⟨.machineType, m.type⟩,
  ⟨.ofInput "spot_price", m.spotPrice⟩, ⟨.ofInput "ami_id", m.image⟩,
  ⟨.ofText "ami_type", m.family⟩, ⟨.ofFlag "gpu" false, m.gpu⟩, ⟨.ofInput "version", m.version⟩]

def firewallValues (f : Firewall) : List FieldValue := [
  ⟨.ofResource "node_security_group" ResourceRef.securityGroupType, f.group⟩,
  ⟨.ofResource "cluster_ingress_rule" ResourceRef.securityGroupRuleType, f.ingressRule⟩,
  ⟨.extraGroups, f.extraGroups⟩]

def accessValues (a : Access) : List FieldValue :=
  [⟨.ofInput "node_public_key", a.publicKey⟩, ⟨.ofInput "key_name", a.keyName⟩]

def volumeValues (v : RootVolume) : List FieldValue := [
  ⟨.volumeSize, v.size⟩,
  ⟨.ofFlag "node_root_volume_delete_on_termination" true, v.deleteOnTermination⟩,
  ⟨.ofFlag "node_root_volume_encrypted" false, v.encrypted⟩,
  ⟨.ofAmount "node_root_volume_iops", v.iops⟩,
  ⟨.ofAmount "node_root_volume_throughput", v.throughput⟩,
  ⟨.volumeType, v.type⟩]

def startupValues (u : Startup) : List FieldValue := [
  ⟨.ofInput "node_user_data", u.userScript⟩, ⟨.ofInput "node_user_data_override", u.override⟩,
  ⟨.ofLabels "labels", u.agent.labels⟩, ⟨.ofTaints "taints", u.agent.taints⟩,
  ⟨.ofText "kubelet_extra_args", u.agent.extraArgs⟩,
  ⟨.ofText "bootstrap_extra_args", u.bootstrapArgs⟩]

def boundsValues (b : Bounds) : List FieldValue := [
  ⟨.ofBound "desired_capacity" 0, b.desired⟩, ⟨.ofBound "min_size" 0, b.least⟩,
  ⟨.ofBound "max_size" 0, b.most⟩]

def identityValues (o : WorkerOptions) : List FieldValue := [
  ⟨.profile, o.profile⟩,
  ⟨.ofTags "auto_scaling_group_tags", o.groupTags⟩, ⟨.ofTags "cloud_formation_tags", o.stackTags⟩]

def values (o : WorkerOptions) : List FieldValue :=
  placementValues o.placement ++ machineValues o.machine ++ firewallValues o.firewall ++
    accessValues o.access ++ volumeValues o.volume ++ startupValues o.startup ++
    boundsValues o.bounds ++ identityValues o

variable {es}

theorem readPlacement_eq_ok {p : NodePlacement} :
    readPlacement es = .ok p ↔ ∀ v ∈ placementValues p, v.IsReadFrom es := by
  simp only [placementValues, List.forall_mem_cons]
  constructor
  · intro h
    obtain ⟨_, _, h₁, address, rfl⟩ := apply_eq_ok.mp h
    obtain ⟨_, subnets, rfl⟩ := map_eq_ok h₁
    exact ⟨subnets, address, List.forall_mem_nil _⟩
  · rintro ⟨subnets, address, -⟩
    exact apply_ok (map_ok subnets) address

theorem readMachine_eq_ok {m : Machine} :
    readMachine es = .ok m ↔ ∀ v ∈ machineValues m, v.IsReadFrom es := by
  simp only [machineValues, List.forall_mem_cons]
  constructor
  · intro h
    obtain ⟨_, _, h₅, version, rfl⟩ := apply_eq_ok.mp h
    obtain ⟨_, _, h₄, gpu, rfl⟩ := apply_eq_ok.mp h₅
    obtain ⟨_, _, h₃, family, rfl⟩ := apply_eq_ok.mp h₄
    obtain ⟨_, _, h₂, image, rfl⟩ := apply_eq_ok.mp h₃
    obtain ⟨_, _, h₁, price, rfl⟩ := apply_eq_ok.mp h₂
    obtain ⟨_, type, rfl⟩ := map_eq_ok h₁
    exact ⟨type, price, image, family, gpu, version, List.forall_mem_nil _⟩
  · rintro ⟨type, price, image, family, gpu, version, -⟩
    exact apply_ok (apply_ok (apply_ok (apply_ok (apply_ok (map_ok type) price) image) family) gpu)
      version

theorem readFirewall_eq_ok {f : Firewall} :
    readFirewall es = .ok f ↔ ∀ v ∈ firewallValues f, v.IsReadFrom es := by
  simp only [firewallValues, List.forall_mem_cons]
  constructor
  · intro h
    obtain ⟨_, _, h₂, extra, rfl⟩ := apply_eq_ok.mp h
    obtain ⟨_, _, h₁, rule, rfl⟩ := apply_eq_ok.mp h₂
    obtain ⟨_, group, rfl⟩ := map_eq_ok h₁
    exact ⟨group, rule, extra, List.forall_mem_nil _⟩
  · rintro ⟨group, rule, extra, -⟩
    exact apply_ok (apply_ok (map_ok group) rule) extra

theorem readAccess_eq_ok {a : Access} :
    readAccess es = .ok a ↔ ∀ v ∈ accessValues a, v.IsReadFrom es := by
  simp only [accessValues, List.forall_mem_cons]
  constructor
  · intro h
    obtain ⟨_, _, h₁, name, rfl⟩ := apply_eq_ok.mp h
    obtain ⟨_, key, rfl⟩ := map_eq_ok h₁
    exact ⟨key, name, List.forall_mem_nil _⟩
  · rintro ⟨key, name, -⟩
    exact apply_ok (map_ok key) name

theorem readVolume_eq_ok {v : RootVolume} :
    readVolume es = .ok v ↔ ∀ x ∈ volumeValues v, x.IsReadFrom es := by
  simp only [volumeValues, List.forall_mem_cons]
  constructor
  · intro h
    obtain ⟨_, _, h₅, type, rfl⟩ := apply_eq_ok.mp h
    obtain ⟨_, _, h₄, throughput, rfl⟩ := apply_eq_ok.mp h₅
    obtain ⟨_, _, h₃, iops, rfl⟩ := apply_eq_ok.mp h₄
    obtain ⟨_, _, h₂, encrypted, rfl⟩ := apply_eq_ok.mp h₃
    obtain ⟨_, _, h₁, deleted, rfl⟩ := apply_eq_ok.mp h₂
    obtain ⟨_, size, rfl⟩ := map_eq_ok h₁
    exact ⟨size, deleted, encrypted, iops, throughput, type, List.forall_mem_nil _⟩
  · rintro ⟨size, deleted, encrypted, iops, throughput, type, -⟩
    exact apply_ok (apply_ok (apply_ok (apply_ok (apply_ok (map_ok size) deleted) encrypted) iops)
      throughput) type

theorem readStartup_eq_ok {u : Startup} :
    readStartup es = .ok u ↔ ∀ v ∈ startupValues u, v.IsReadFrom es := by
  simp only [startupValues, List.forall_mem_cons]
  constructor
  · intro h
    obtain ⟨_, _, h₃, bootstrap, rfl⟩ := apply_eq_ok.mp h
    obtain ⟨_, _, h₂, agent, rfl⟩ := apply_eq_ok.mp h₃
    obtain ⟨_, _, h₁, override, rfl⟩ := apply_eq_ok.mp h₂
    obtain ⟨_, script, rfl⟩ := map_eq_ok h₁
    obtain ⟨_, _, a₂, args, rfl⟩ := apply_eq_ok.mp agent
    obtain ⟨_, _, a₁, taints, rfl⟩ := apply_eq_ok.mp a₂
    obtain ⟨_, labels, rfl⟩ := map_eq_ok a₁
    exact ⟨script, override, labels, taints, args, bootstrap, List.forall_mem_nil _⟩
  · rintro ⟨script, override, labels, taints, args, bootstrap, -⟩
    have agent : readAgent es = .ok u.agent := apply_ok (apply_ok (map_ok labels) taints) args
    exact apply_ok (apply_ok (apply_ok (map_ok script) override) agent) bootstrap

theorem readBounds_eq_ok {b : Bounds} :
    readBounds es = .ok b ↔ ∀ v ∈ boundsValues b, v.IsReadFrom es := by
  simp only [boundsValues, List.forall_mem_cons]
  constructor
  · intro h
    obtain ⟨_, _, h₂, most, rfl⟩ := apply_eq_ok.mp h
    obtain ⟨_, _, h₁, least, rfl⟩ := apply_eq_ok.mp h₂
    obtain ⟨_, desired, rfl⟩ := map_eq_ok h₁
    exact ⟨desired, least, most, List.forall_mem_nil _⟩
  · rintro ⟨desired, least, most, -⟩
    exact apply_ok (apply_ok (map_ok desired) least) most

/-- Options are read exactly if every declared field reads its value. -/
theorem readFields_eq_ok {o : WorkerOptions} :
    readFields es = .ok o ↔ ∀ v ∈ o.values, v.IsReadFrom es := by
  simp only [values, List.forall_mem_append, ← readPlacement_eq_ok, ← readMachine_eq_ok,
    ← readFirewall_eq_ok, ← readAccess_eq_ok, ← readVolume_eq_ok, ← readStartup_eq_ok,
    ← readBounds_eq_ok, identityValues, List.forall_mem_cons]
  constructor
  · intro h
    obtain ⟨_, _, h₉, stackTags, rfl⟩ := apply_eq_ok.mp h
    obtain ⟨_, _, h₈, groupTags, rfl⟩ := apply_eq_ok.mp h₉
    obtain ⟨_, _, h₇, profile, rfl⟩ := apply_eq_ok.mp h₈
    obtain ⟨_, _, h₆, bounds, rfl⟩ := apply_eq_ok.mp h₇
    obtain ⟨_, _, h₅, startup, rfl⟩ := apply_eq_ok.mp h₆
    obtain ⟨_, _, h₄, volume, rfl⟩ := apply_eq_ok.mp h₅
    obtain ⟨_, _, h₃, access, rfl⟩ := apply_eq_ok.mp h₄
    obtain ⟨_, _, h₂, firewall, rfl⟩ := apply_eq_ok.mp h₃
    obtain ⟨_, _, h₁, machine, rfl⟩ := apply_eq_ok.mp h₂
    obtain ⟨_, placement, rfl⟩ := map_eq_ok h₁
    exact ⟨⟨⟨⟨⟨⟨⟨placement, machine⟩, firewall⟩, access⟩, volume⟩, startup⟩, bounds⟩, profile,
      groupTags, stackTags, List.forall_mem_nil _⟩
  · rintro ⟨⟨⟨⟨⟨⟨⟨placement, machine⟩, firewall⟩, access⟩, volume⟩, startup⟩, bounds⟩, profile,
      groupTags, stackTags, -⟩
    exact apply_ok (apply_ok (apply_ok (apply_ok (apply_ok (apply_ok (apply_ok (apply_ok (apply_ok
      (map_ok placement) machine) firewall) access) volume) startup) bounds) profile) groupTags)
      stackTags

end WorkerOptions

namespace TemplateOptions

def values (o : TemplateOptions) : List FieldValue :=
  o.toWorkerOptions.values ++
    [⟨.healthyShare, o.healthyShare⟩, ⟨.tagSpecifications, o.tagSpecifications⟩]

variable {es}

theorem readFields_eq_ok {o : TemplateOptions} :
    readFields es = .ok o ↔ ∀ v ∈ o.values, v.IsReadFrom es := by
  simp only [values, List.forall_mem_append, ← WorkerOptions.readFields_eq_ok,
    List.forall_mem_cons]
  constructor
  · intro h
    obtain ⟨_, _, h₂, specifications, rfl⟩ := apply_eq_ok.mp h
    obtain ⟨_, _, h₁, share, rfl⟩ := apply_eq_ok.mp h₂
    obtain ⟨_, worker, rfl⟩ := map_eq_ok h₁
    exact ⟨worker, share, specifications, List.forall_mem_nil _⟩
  · rintro ⟨worker, share, specifications, -⟩
    exact apply_ok (apply_ok (map_ok worker) share) specifications

end TemplateOptions

namespace ManagedOptions

def values (o : ManagedOptions) : List FieldValue := [
  ⟨.ofInput "node_group_name", o.groupName⟩, ⟨.ofInput "cluster_name", o.clusterName⟩,
  ⟨.ofResource "node_role" ResourceRef.roleType, o.role⟩, ⟨.ofInput "node_role_arn", o.roleArn⟩,
  ⟨.ofList "subnet_ids", o.subnets⟩,
  ⟨.scaling, o.scaling⟩, ⟨.instanceTypes, o.instanceTypes⟩,
  ⟨.ofChoice "capacity_type" Purchase.all Purchase.code, o.purchase⟩,
  ⟨.ofChoice "ami_type" ManagedImage.all ManagedImage.code, o.image⟩,
  ⟨.ofBound "disk_size" 1, o.diskSize⟩, ⟨.ofInput "release_version", o.releaseVersion⟩,
  ⟨.ofInput "version", o.version⟩,
  ⟨.forceUpdate, o.forceUpdate⟩,
  ⟨.ofLabels "labels", o.labels⟩, ⟨.ofTaints "taints", o.taints⟩,
  ⟨.ofBlock "launch_template" .launchTemplate, o.launchTemplate⟩,
  ⟨.ofBlock "remote_access" .remoteAccess, o.remoteAccess⟩,
  ⟨.ofBlock "update_config" .updatePolicy, o.updatePolicy⟩,
  ⟨.tags, o.tags⟩]

variable {es}

theorem readFields_eq_ok {o : ManagedOptions} :
    readFields es = .ok o ↔ ∀ v ∈ o.values, v.IsReadFrom es := by
  simp only [values, List.forall_mem_cons]
  constructor
  · intro h
    obtain ⟨_, _, h₁₈, tags, rfl⟩ := apply_eq_ok.mp h
    obtain ⟨_, _, h₁₇, update, rfl⟩ := apply_eq_ok.mp h₁₈
    obtain ⟨_, _, h₁₆, access, rfl⟩ := apply_eq_ok.mp h₁₇
    obtain ⟨_, _, h₁₅, template, rfl⟩ := apply_eq_ok.mp h₁₆
    obtain ⟨_, _, h₁₄, taints, rfl⟩ := apply_eq_ok.mp h₁₅
    obtain ⟨_, _, h₁₃, labels, rfl⟩ := apply_eq_ok.mp h₁₄
    obtain ⟨_, _, h₁₂, force, rfl⟩ := apply_eq_ok.mp h₁₃
    obtain ⟨_, _, h₁₁, version, rfl⟩ := apply_eq_ok.mp h₁₂
    obtain ⟨_, _, h₁₀, release, rfl⟩ := apply_eq_ok.mp h₁₁
    obtain ⟨_, _, h₉, disk, rfl⟩ := apply_eq_ok.mp h₁₀
    obtain ⟨_, _, h₈, image, rfl⟩ := apply_eq_ok.mp h₉
    obtain ⟨_, _, h₇, purchase, rfl⟩ := apply_eq_ok.mp h₈
    obtain ⟨_, _, h₆, types, rfl⟩ := apply_eq_ok.mp h₇
    obtain ⟨_, _, h₅, scaling, rfl⟩ := apply_eq_ok.mp h₆
    obtain ⟨_, _, h₄, subnets, rfl⟩ := apply_eq_ok.mp h₅
    obtain ⟨_, _, h₃, arn, rfl⟩ := apply_eq_ok.mp h₄
    obtain ⟨_, _, h₂, role, rfl⟩ := apply_eq_ok.mp h₃
    obtain ⟨_, _, h₁, cluster, rfl⟩ := apply_eq_ok.mp h₂
    obtain ⟨_, group, rfl⟩ := map_eq_ok h₁
    exact ⟨group, cluster, role, arn, subnets, scaling, types, purchase, image, disk, release,
      version, force, labels, taints, template, access, update, tags, List.forall_mem_nil _⟩
  · rintro ⟨group, cluster, role, arn, subnets, scaling, types, purchase, image, disk, release,
      version, force, labels, taints, template, access, update, tags, -⟩
    exact apply_ok (apply_ok (apply_ok (apply_ok (apply_ok (apply_ok (apply_ok (apply_ok (apply_ok
      (apply_ok (apply_ok (apply_ok (apply_ok (apply_ok (apply_ok (apply_ok (apply_ok (apply_ok
      (map_ok group) cluster) role) arn) subnets) scaling) types) purchase) image) disk) release)
      version) force) labels) taints) template) access) update) tags

end ManagedOptions

/-! Options of a kind. -/

namespace GroupKind

def fields : GroupKind → List String
  | stack => WorkerOptions.fields
  | template => TemplateOptions.fields
  | managed => ManagedOptions.fields

def rules : GroupKind → List FieldRule
  | stack => WorkerOptions.rules
  | template => TemplateOptions.rules
  | managed => ManagedOptions.rules

theorem keys_rules (kind : GroupKind) : kind.rules.map FieldRule.key = kind.fields := by
  cases kind <;> rfl

theorem nodup_fields (kind : GroupKind) : kind.fields.Nodup := by
  cases kind <;> decide

end GroupKind

namespace GroupOptions

/-- The declared fields of options with their values. -/
def values : GroupOptions → List FieldValue
  | stack o => o.values
  | template o => o.values
  | managed o => o.values

def toEntries : GroupOptions → Entries Setting
  | stack o => o.toEntries
  | template o => o.toEntries
  | managed o => o.toEntries

theorem toEntries_eq (o : GroupOptions) : o.toEntries = o.values.map FieldValue.entry := by
  cases o <;> rfl

theorem rules_values (o : GroupOptions) : o.values.map FieldValue.rule = o.kind.rules := by
  cases o <;> rfl

theorem keys_values (o : GroupOptions) :
    (o.values.map fun v => v.rule.key) = o.kind.fields := by
  cases o <;> rfl

theorem keys_toEntries (o : GroupOptions) : Entries.keys o.toEntries = o.kind.fields := by
  cases o <;> rfl

theorem faults_ofFields (kind : GroupKind) :
    (ofFields es kind).faults = FieldRule.faultsOf kind.rules es ++ strangers kind.fields es := by
  cases kind with
  | stack =>
      rw [ofFields, faults_map, WorkerOptions.ofFields, faults_withFaults,
        WorkerOptions.faults_readFields]
      rfl
  | template =>
      rw [ofFields, faults_map, TemplateOptions.ofFields, faults_withFaults,
        TemplateOptions.faults_readFields]
      rfl
  | managed =>
      rw [ofFields, faults_map, ManagedOptions.ofFields, faults_withFaults,
        ManagedOptions.faults_readFields]
      rfl

variable {es}

/-- Options are read exactly if each declared field reads its value and no other key is given. -/
theorem ofFields_eq_ok {kind : GroupKind} {o : GroupOptions} :
    ofFields es kind = .ok o ↔
      o.kind = kind ∧ (∀ v ∈ o.values, v.IsReadFrom es) ∧ strangers kind.fields es = [] := by
  constructor
  · intro h
    cases kind with
    | stack =>
        obtain ⟨_, read, rfl⟩ := map_eq_ok h
        obtain ⟨fields, none⟩ := withFaults_eq_ok_iff.mp read
        exact ⟨rfl, WorkerOptions.readFields_eq_ok.mp fields, none⟩
    | template =>
        obtain ⟨_, read, rfl⟩ := map_eq_ok h
        obtain ⟨fields, none⟩ := withFaults_eq_ok_iff.mp read
        exact ⟨rfl, TemplateOptions.readFields_eq_ok.mp fields, none⟩
    | managed =>
        obtain ⟨_, read, rfl⟩ := map_eq_ok h
        obtain ⟨fields, none⟩ := withFaults_eq_ok_iff.mp read
        exact ⟨rfl, ManagedOptions.readFields_eq_ok.mp fields, none⟩
  · rintro ⟨rfl, fields, none⟩
    cases o with
    | stack o =>
        exact map_ok (withFaults_eq_ok_iff.mpr ⟨WorkerOptions.readFields_eq_ok.mpr fields, none⟩)
    | template o =>
        exact map_ok (withFaults_eq_ok_iff.mpr ⟨TemplateOptions.readFields_eq_ok.mpr fields, none⟩)
    | managed o =>
        exact map_ok (withFaults_eq_ok_iff.mpr ⟨ManagedOptions.readFields_eq_ok.mpr fields, none⟩)

end GroupOptions

end FleetPlan
