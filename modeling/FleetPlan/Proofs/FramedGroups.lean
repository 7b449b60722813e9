import FleetPlan.Proofs.DirectPlans
import FleetPlan.Proofs.FleetDrafts
import FleetPlan.Proofs.GroupForms
import FleetPlan.Stack.GroupList

/-!
Groups that are planned alike whatever groups were planned before them.

If neither the options nor the description of the cluster come from a group, no draft that is made for a
group does, since all that it refers to beside them was registered for the group itself. So a group of any
kind is planned alike behind any two pasts whose components are groups.
-/
namespace FleetPlan

open Plan Deferred

/-! What a group is made of. -/

/-- Resources to wait for that come from no group, and none of which is a component. -/
structure Deferred.Waitable (d : Deferred (List Resource)) : Prop where
  direct : d.Direct
  custom : ∀ rs, d.outcome = .ok rs → ∀ r ∈ rs, r.isComponent = false

theorem Deferred.waitable_nil : (Pure.pure [] : Deferred (List Resource)).Waitable where
  direct := direct_pure _
  custom rs hrs r hr := by
    cases hrs
    cases hr

/-- A description of a cluster that comes from no group. -/
structure Cluster.IsDirect (cluster : Deferred Cluster) : Prop where
  parts : ∀ p ∈ Cluster.parts, (cluster.part p.2).Direct
  fleet : Deferred.Waitable do (← cluster).fleetDependencies
  access : Deferred.Waitable do (← cluster).accessDependencies

theorem Cluster.IsDirect.part {cluster : Deferred Cluster} (h : IsDirect cluster) (key : String)
    {get : Cluster → Part} (hget : Entries.get? Cluster.parts key = some get) :
    (cluster.part get).Direct :=
  h.parts _ (Entries.mem_of_get? hget)

/-- A resource that may be referred to. -/
def Resource.IsCustom (r : Resource) : Prop := r.ref.type ∉ groupTypes

/-- Options of a group of one's own that come from no group. -/
structure WorkerOptions.Direct (o : WorkerOptions) : Prop where
  subnets : ∀ ids, o.placement.subnets.value? = some ids → ids.Direct
  type : o.machine.type.value.Direct
  spotPrice : o.machine.spotPrice.value.Direct
  image : o.machine.image.value.Direct
  version : o.machine.version.value.Direct
  group : ∀ g, o.firewall.group = some g → g.IsCustom
  rule : ∀ r, o.firewall.ingressRule = some r → r.IsCustom
  extraGroups : ∀ g ∈ o.firewall.extraGroups, g.IsCustom
  publicKey : o.access.publicKey.value.Direct
  keyName : o.access.keyName.value.Direct
  userScript : o.startup.userScript.value.Direct
  override : o.startup.override.value.Direct
  profile : o.profile.arn.value.Direct
  groupTags : o.groupTags.value.Direct
  stackTags : o.stackTags.value.Direct

structure TemplateOptions.Direct (o : TemplateOptions) : Prop extends o.toWorkerOptions.Direct where
  healthyShare : (o.healthyShare.resolve fun n => Pure.pure (.int n)).Direct
  tagSpecifications : (TemplateGroup.blockList o.tagSpecifications).Direct

structure ManagedOptions.Direct (o : ManagedOptions) : Prop where
  groupName : o.groupName.value.Direct
  clusterName : o.clusterName.value.Direct
  role : ∀ r, o.role = some r → r.IsCustom
  roleArn : o.roleArn.value.Direct
  subnets : ∀ ids, o.subnets.value? = some ids → ids.Direct
  releaseVersion : o.releaseVersion.value.Direct
  version : o.version.value.Direct
  launchTemplate : (ManagedGroup.blockProperty o.launchTemplate).Direct
  remoteAccess : (ManagedGroup.blockProperty o.remoteAccess).Direct
  updatePolicy : (ManagedGroup.blockProperty o.updatePolicy).Direct

/-- Options of a group of any kind that come from no group. -/
def GroupOptions.Direct : GroupOptions → Prop
  | stack o => o.Direct
  | template o => o.Direct
  | managed o => o.Direct

/-! What is made before the machines of a group of one's own are described. -/

structure GroupPair.IsCustom (pair : GroupPair) : Prop where
  group : pair.group.IsCustom
  rule : pair.rule.IsCustom

theorem GroupPair.IsCustom.groupId {pair : GroupPair} (h : pair.IsCustom) : pair.groupId.Direct :=
  (Resource.direct_output h.group _).bind fun _ _ => (Resource.direct_output h.rule _).map _

/-- What is settled about a group comes from no group. -/
structure Preparation.Direct (p : Preparation) : Prop where
  pair : p.pair.IsCustom
  groupIds : p.groupIds.Direct
  profileArn : p.profileArn.Direct
  keyName : p.keyName.Direct
  imageId : p.imageId.Direct
  subnets : p.subnets.Direct
  dependencies : p.dependencies.Waitable

section Prepared

variable {name : String} {cluster : Deferred Cluster} {placement : Placement} {o : WorkerOptions}

theorem framed_registerCustom {d : Draft} (h : d.Direct) (hd : d.type ∉ groupTypes) :
    Framed Resource.IsCustom (register d) :=
  (framed_register h).imp fun r hr => by
    rw [Resource.IsCustom, hr]
    exact hd

theorem Draft.direct_of_waitable {d : Draft} (hcomponent : d.isComponent = false)
    (hafter : d.after.Waitable) (h : ∀ p ∈ d.properties, p.2.Direct) : d.Direct where
  component hc := absurd (hcomponent.symm.trans hc) Bool.false_ne_true
  properties := h
  after := hafter.direct
  waited := hafter.custom

theorem Draft.direct_of_properties {d : Draft} (hcomponent : d.isComponent = false)
    (hafter : d.after = Pure.pure []) (h : ∀ p ∈ d.properties, p.2.Direct) : d.Direct :=
  Draft.direct_of_waitable hcomponent (hafter ▸ waitable_nil) h

theorem framed_registerAll {ds : List Draft} (h : ∀ d ∈ ds, d.Direct) :
    Framed (fun _ => True) (GroupPair.registerAll ds) := by
  induction ds with
  | nil => exact framed_pure trivial
  | cons d ds ih =>
      exact (framed_register (h d (.head _))).bind fun _ _ => ih fun d' hd' => h d' (.tail _ hd')

theorem TrafficRule.direct_draft {r : TrafficRule} {owner : Deferred Json} (howner : owner.Direct)
    (hends : ∀ p ∈ r.ends, p.2.Direct) : (r.draft name placement owner).Direct := by
  refine Draft.direct_of_properties rfl rfl (List.forall_mem_append.2 ⟨?_, hends⟩)
  simp only [List.forall_mem_cons]
  exact ⟨direct_pure _, howner, direct_pure _, direct_pure _, direct_pure _, direct_pure _,
    List.forall_mem_nil _⟩

theorem framed_createPair (hcluster : Cluster.IsDirect cluster) :
    Framed GroupPair.IsCustom (GroupPair.create name cluster placement) := by
  have draft : (GroupPair.groupDraft name cluster placement).Direct := by
    refine Draft.direct_of_properties rfl rfl ?_
    simp only [GroupPair.groupDraft, List.forall_mem_cons]
    refine ⟨hcluster.part "vpc_id" rfl, direct_pure _, direct_pure _, ?_, List.forall_mem_nil _⟩
    refine (hcluster.part "cluster_name" rfl).bind fun _ _ => Direct.map ?_ _
    refine (hcluster.part "node_security_group_tags" rfl).bind fun _ _ => ?_
    exact (hcluster.part "tags" rfl).bind fun _ _ => direct_ofOption _
  have control := hcluster.part "cluster_security_group_id" rfl
  have ends : ∀ r ∈ GroupPair.ownRules (cluster.part Cluster.controlGroup),
      ∀ p ∈ r.ends, p.2.Direct := by
    have none : ∀ p ∈ ([] : Entries (Deferred Json)), p.2.Direct := List.forall_mem_nil _
    simp only [GroupPair.ownRules, List.forall_mem_cons]
    exact ⟨⟨direct_pure _, none⟩, ⟨control, none⟩, ⟨control, none⟩, ⟨direct_pure _, none⟩,
      List.forall_mem_nil _⟩
  have isGroup : ResourceRef.securityGroupType ∉ groupTypes := by decide
  have isRule : ResourceRef.securityGroupRuleType ∉ groupTypes := by decide
  refine (framed_registerCustom draft isGroup).bind fun group hgroup => ?_
  refine (framed_registerAll fun d hd => ?_).bind fun _ _ => ?_
  · obtain ⟨r, hr, rfl⟩ := List.mem_map.1 hd
    exact TrafficRule.direct_draft (Resource.direct_output hgroup _) (ends r hr)
  refine (framed_registerCustom (TrafficRule.direct_draft control ?_) isRule).bind
    fun rule hrule => framed_pure ⟨hgroup, hrule⟩
  exact List.forall_mem_singleton.2 (Resource.direct_output hgroup _)

theorem framed_obtainPair {f : Firewall} (hcluster : Cluster.IsDirect cluster)
    (hgroup : ∀ g, f.group = some g → g.IsCustom) (hrule : ∀ r, f.ingressRule = some r → r.IsCustom) :
    Framed GroupPair.IsCustom (GroupPair.obtain name f cluster placement) := by
  unfold GroupPair.obtain
  split
  case h_1 => exact framed_createPair hcluster
  case h_2 group rule hg hr => exact framed_pure ⟨hgroup group hg, hrule rule hr⟩
  case h_3 => exact framed_fail _

theorem framed_keyOf {access : Access} (hkey : access.publicKey.value.Direct)
    (hname : access.keyName.value.Direct) :
    Framed Deferred.Direct (Preparation.keyOf name access placement) := by
  have isPair : "aws:ec2/keyPair:KeyPair" ∉ groupTypes := by decide
  unfold Preparation.keyOf
  split
  · refine (framed_registerCustom ?_ isPair).bind fun pair hpair => ?_
    · exact Draft.direct_of_properties rfl rfl (List.forall_mem_singleton.2 hkey)
    · exact framed_pure (Resource.direct_output hpair _)
  · exact framed_pure hname

theorem framed_imageId {m : Machine} {version : Deferred Json} (himage : m.image.value.Direct)
    (hversion : version.Direct) : Framed Deferred.Direct (m.imageId version placement) := by
  unfold Machine.imageId
  split
  · exact framed_pure himage
  · exact framed_whenKnown hversion fun v =>
      (framed_askText _ _ _).bind fun _ _ => framed_pure (direct_pure _)

theorem framed_chooseAmong (every : Json) :
    Framed (fun _ => True) (chooseAmong placement every) := by
  unfold chooseAmong
  split
  · split
    · exact (framed_chooseSubnets _ _).bind fun _ _ => framed_pure trivial
    · exact framed_fail _
  · exact framed_pure trivial

theorem framed_workerSubnetIds {asked : Option (Deferred Json)}
    (hasked : ∀ ids, asked = some ids → ids.Direct) (hcluster : Cluster.IsDirect cluster) :
    Framed Deferred.Direct (workerSubnetIds asked cluster placement) := by
  cases asked with
  | some ids => exact framed_pure (hasked ids rfl)
  | none =>
      refine framed_whenKnown ?_ fun known => ?_
      · refine (hcluster.part "private_subnet_ids" rfl).bind fun _ _ => ?_
        refine (hcluster.part "public_subnet_ids" rfl).bind fun _ _ => ?_
        exact (hcluster.part "subnet_ids" rfl).map _
      · obtain ⟨inside, outside, every⟩ := known
        refine Framed.bind (P := fun _ => True) ?_ fun found _ => framed_pure (direct_pure _)
        rw [firstSet_pure, firstSet_pure]
        split
        · exact framed_pure trivial
        split
        · exact framed_pure trivial
        refine Framed.bind (P := fun _ => True) ?_ fun found _ => ?_
        · exact (framed_chooseAmong every).bind fun _ _ => framed_pure trivial
        · split <;> exact framed_pure trivial

theorem direct_nodeGroupId {pair : GroupPair} {f : Firewall} (hpair : pair.IsCustom)
    (hcluster : Cluster.IsDirect cluster) : (GroupPair.nodeGroupId pair f cluster).Direct := by
  unfold GroupPair.nodeGroupId
  split
  · exact hpair.groupId
  · refine hpair.groupId.bind fun _ _ => ?_
    refine (hcluster.part "node_security_group_id" rfl).bind fun _ _ => ?_
    refine (hcluster.part "node_security_group_tags" rfl).bind fun _ _ => ?_
    exact (direct_ofExcept _).map _

theorem direct_profileOf (ho : o.Direct) (hcluster : Cluster.IsDirect cluster) :
    (Preparation.profileOf o cluster).Direct := by
  refine (hcluster.part "instance_profile_arn" rfl).bind fun arn _ => ?_
  unfold WorkerOptions.profileArn
  split
  case h_1 own h =>
    split at h
    · cases h
      exact ho.profile
    · split at h
      · cases h
        exact direct_pure _
      · cases h
  case h_2 => exact direct_fail _

theorem framed_make (ho : o.Direct) (hcluster : Cluster.IsDirect cluster) :
    Framed Preparation.Direct (Preparation.make name o cluster placement) := by
  have version : (Preparation.versionOf o.machine cluster).Direct := by
    unfold Preparation.versionOf
    split
    · exact ho.version
    · exact hcluster.part "version" rfl
  refine (framed_obtainPair hcluster ho.group ho.rule).bind fun pair hpair => ?_
  refine (framed_keyOf ho.publicKey ho.keyName).bind fun keyName hkey => ?_
  refine (framed_imageId ho.image version).bind fun image himage => ?_
  refine (framed_workerSubnetIds ho.subnets hcluster).bind fun subnets hsubnets => ?_
  refine framed_pure {
    pair := hpair
    groupIds := (direct_all (List.forall_mem_cons.2 ⟨?_, ?_⟩)).map _
    profileArn := direct_profileOf ho hcluster
    keyName := hkey
    imageId := himage
    subnets := hsubnets
    dependencies := hcluster.fleet }
  · exact direct_nodeGroupId hpair hcluster
  · rintro _ hd
    obtain ⟨g, hg, rfl⟩ := List.mem_map.1 hd
    exact Resource.direct_output (ho.extraGroups g hg) _

end Prepared

/-! The groups themselves. -/

section Groups

variable {name : String} {cluster : Deferred Cluster} {placement : Placement} {x : ClusterInput}

theorem Preparation.Direct.script {p : Preparation} {o : WorkerOptions}
    (hcluster : Cluster.IsDirect cluster) (ho : o.Direct) {marker : String}
    {signal : Option (String × Deferred Json)} (hsignal : ∀ g, signal = some g → g.2.Direct) :
    (p.script o cluster marker signal).Direct := by
  refine Direct.map ?_ _
  refine (hcluster.part "cluster_name" rfl).bind fun _ _ => ?_
  refine (hcluster.part "endpoint" rfl).bind fun _ _ => ?_
  refine (hcluster.part "certificate_authority_data" rfl).bind fun _ _ => ?_
  refine ho.userScript.bind fun _ _ => ?_
  refine (direct_pure _).bind fun _ _ => (direct_pure _).bind fun _ _ => Direct.map ?_ _
  cases signal with
  | none => exact direct_pure _
  | some g => exact hsignal g rfl

theorem direct_workerTags {o : WorkerOptions} (hcluster : Cluster.IsDirect cluster) (ho : o.Direct) :
    (Preparation.workerTags o cluster).Direct :=
  (hcluster.part "cluster_name" rfl).bind fun _ _ => ho.groupTags.bind fun _ _ => direct_ofOption _

namespace StackGroup

theorem framed_userData {p : Preparation} {o : WorkerOptions} (hcluster : Cluster.IsDirect cluster)
    (ho : o.Direct) (stack : String) :
    Framed Deferred.Direct (userData p o cluster placement stack) := by
  unfold userData
  split
  · exact framed_pure ho.override
  · refine (framed_deferred (framed_askText _ _ _)).bind fun region hregion => framed_pure ?_
    refine (Preparation.Direct.script hcluster ho fun g hg => ?_).map _
    cases hg
    exact hregion

theorem direct_configurationDraft {p : Preparation} {o : WorkerOptions} (hp : p.Direct)
    (ho : o.Direct) (rootDevice : Json) {script : Deferred Json} (hscript : script.Direct) :
    (configurationDraft name o p placement rootDevice script).Direct := by
  refine Draft.direct_of_properties rfl rfl ?_
  simp only [configurationDraft, List.forall_mem_cons]
  exact ⟨direct_pure _, hp.imageId, ho.type, hp.profileArn, hp.keyName, hp.groupIds, ho.spotPrice,
    direct_pure _, hscript, List.forall_mem_nil _⟩

theorem direct_stackDraft {p : Preparation} {o : WorkerOptions} (hp : p.Direct) (ho : o.Direct)
    (hcluster : Cluster.IsDirect cluster) (stack : String) {configuration : Resource}
    (hconfiguration : configuration.IsCustom) :
    (stackDraft name stack o p cluster placement configuration).Direct := by
  refine Draft.direct_of_waitable rfl hp.dependencies ?_
  simp only [stackDraft, List.forall_mem_cons]
  refine ⟨direct_pure _, ?_, ?_, List.forall_mem_nil _⟩
  · refine (Resource.direct_output hconfiguration _).bind fun _ _ => ?_
    refine hp.subnets.bind fun _ _ => (direct_workerTags hcluster ho).bind fun _ _ => ?_
    exact (direct_ofOption _).map _
  · refine (hcluster.part "tags" rfl).bind fun _ _ => ho.stackTags.bind fun _ _ => ?_
    exact (direct_ofOption _).map _

theorem framed_create {o : WorkerOptions} (hcluster : Cluster.IsDirect x.cluster) (ho : o.Direct) :
    Framed (fun _ => True) (create name x o placement) := by
  have isConfiguration : "aws:ec2/launchConfiguration:LaunchConfiguration" ∉ groupTypes := by decide
  refine (framed_ofExcept fun _ _ => trivial).bind fun _ _ => ?_
  refine (framed_make ho hcluster).bind fun p hp => ?_
  refine framed_site_bind (fun here => ?_) fun here there alike => by
    rw [alike.project, alike.stack]
  refine (framed_userData hcluster ho _).bind fun script hscript => ?_
  refine (framed_ofExcept fun _ _ => trivial).bind fun rootDevice _ => ?_
  refine (framed_registerCustom (direct_configurationDraft hp ho rootDevice hscript)
    isConfiguration).bind fun configuration hconfiguration => ?_
  exact (framed_register (direct_stackDraft hp ho hcluster _ hconfiguration)).bind fun _ _ =>
    framed_pure trivial

end StackGroup

namespace TemplateGroup

theorem direct_userData {p : Preparation} {o : TemplateOptions} (hcluster : Cluster.IsDirect cluster)
    (ho : o.Direct) : (userData name p o cluster).Direct := by
  unfold userData
  refine Direct.bind ?_ fun v _ => ?_
  · split
    · exact ho.override
    · exact (Preparation.Direct.script hcluster ho.toDirect fun _ h => by cases h).map _
  · split
    · exact direct_pure _
    · exact direct_fail _

theorem framed_rootDevice {image : Deferred Json} (himage : image.Direct) :
    Framed Deferred.Direct (rootDevice image placement) := by
  refine framed_whenKnown himage fun id => (framed_ask _ _ _).bind fun devices _ => ?_
  cases devices with
  | nil => exact framed_fail _
  | cons device _ => exact framed_pure (direct_pure _)

theorem direct_blockDevice {v : RootVolume} {root device : Deferred Json} (hroot : root.Direct)
    (h : blockDevice v root = .ok device) : device.Direct := by
  obtain ⟨_, _, h⟩ := except_bind_eq_ok.1 h
  obtain ⟨_, _, h⟩ := except_bind_eq_ok.1 h
  cases h
  exact hroot.map _

theorem direct_templateDraft {p : Preparation} {o : TemplateOptions} (hp : p.Direct) (ho : o.Direct)
    {device script : Deferred Json} (hdevice : device.Direct) (hscript : script.Direct) :
    (templateDraft name o p placement device script).Direct := by
  have market : (marketOptions o.machine.spotPrice).Direct := by
    unfold marketOptions
    split
    · exact ho.spotPrice.map _
    · exact direct_pure _
  refine Draft.direct_of_properties rfl rfl ?_
  simp only [templateDraft, List.forall_mem_cons]
  exact ⟨hp.imageId, ho.type, hp.profileArn.map _, hp.keyName, market, hdevice.map _,
    hp.groupIds.map _, hscript, ho.tagSpecifications, List.forall_mem_nil _⟩

theorem direct_scalingDraft {p : Preparation} {o : TemplateOptions} (hp : p.Direct) (ho : o.Direct)
    (hcluster : Cluster.IsDirect cluster) {template : Resource} (htemplate : template.IsCustom) :
    (scalingDraft name o p cluster placement template).Direct := by
  refine Draft.direct_of_waitable rfl hp.dependencies ?_
  simp only [scalingDraft, List.forall_mem_cons]
  refine ⟨direct_pure _, direct_pure _, direct_pure _, direct_pure _, ?_, hp.subnets,
    ho.healthyShare.map _, (direct_workerTags hcluster ho.toDirect).map _, List.forall_mem_nil _⟩
  refine (Resource.direct_output htemplate _).bind fun _ _ => ?_
  exact (Resource.direct_output htemplate _).map _

theorem framed_create {o : TemplateOptions} (hcluster : Cluster.IsDirect x.cluster) (ho : o.Direct) :
    Framed (fun _ => True) (create name x o placement) := by
  have isTemplate : "aws:ec2/launchTemplate:LaunchTemplate" ∉ groupTypes := by decide
  refine (framed_ofExcept fun _ _ => trivial).bind fun _ _ => ?_
  refine (framed_make ho.toDirect hcluster).bind fun p hp => ?_
  refine (framed_rootDevice hp.imageId).bind fun root hroot => ?_
  refine (framed_ofExcept fun device h => direct_blockDevice hroot h).bind fun device hdevice => ?_
  refine (framed_registerCustom (direct_templateDraft hp ho hdevice (direct_userData hcluster ho))
    isTemplate).bind fun template htemplate => ?_
  exact (framed_register (direct_scalingDraft hp ho hcluster htemplate)).bind fun _ _ =>
    framed_pure trivial

end TemplateGroup

namespace ManagedGroup

theorem direct_role {o : ManagedOptions} (hcluster : Cluster.IsDirect cluster) (ho : o.Direct) :
    (role o cluster).Direct := by
  refine Direct.bind ?_ fun arn _ => ?_
  · unfold askedRole
    split
    · exact ho.roleArn
    split
    case h_1 r hr => exact Resource.direct_output (ho.role r hr) _
    case h_2 => exact direct_fail _
  · exact (hcluster.part "instance_role_arns" rfl).bind fun _ _ => direct_ofExcept _

theorem direct_firstSet {α : Type} {sources : List (Unit → Deferred (Option α))}
    (h : ∀ source ∈ sources, (source ()).Direct) : (firstSet sources).Direct := by
  induction sources with
  | nil => exact direct_pure _
  | cons source sources ih =>
      refine (h source (.head _)).bind fun found _ => ?_
      cases found with
      | some a => exact direct_pure _
      | none => exact ih fun source' hs => h source' (.tail _ hs)

theorem direct_subnetIds {asked : Option (Deferred Json)} (hcluster : Cluster.IsDirect cluster)
    (hasked : ∀ ids, asked = some ids → ids.Direct) : (managedSubnetIds asked cluster).Direct := by
  cases asked with
  | some ids => exact hasked ids rfl
  | none =>
      refine (hcluster.part "subnet_ids" rfl).bind fun _ _ => ?_
      refine (hcluster.part "private_subnet_ids" rfl).bind fun _ _ => ?_
      refine (hcluster.part "public_subnet_ids" rfl).bind fun _ _ => Direct.map ?_ _
      refine direct_firstSet ?_
      simp only [List.forall_mem_cons]
      exact ⟨direct_pure _, direct_pure _, direct_pure _, direct_pure _, List.forall_mem_nil _⟩

theorem direct_draft {o : ManagedOptions} (hcluster : Cluster.IsDirect cluster) (ho : o.Direct) :
    (draft name o cluster placement).Direct := by
  have named : (if o.clusterName.isTruthy then o.clusterName.value
      else cluster.part Cluster.name).Direct := by
    split
    · exact ho.clusterName
    · exact hcluster.part "cluster_name" rfl
  have optional {α : Type} (f : α → Json) (a : Option α) : (optional f a).Direct := by
    cases a <;> exact direct_pure _
  refine Draft.direct_of_waitable rfl hcluster.access ?_
  simp only [draft, List.forall_mem_cons]
  exact ⟨named, ho.groupName, direct_role hcluster ho, direct_subnetIds hcluster ho.subnets,
    direct_pure _, optional _ _, optional _ _, optional _ _, optional _ _, ho.releaseVersion,
    ho.version, optional _ _, optional _ _, direct_pure _, ho.launchTemplate, ho.remoteAccess,
    ho.updatePolicy, direct_pure _, List.forall_mem_nil _⟩

theorem framed_create {o : ManagedOptions} (hcluster : Cluster.IsDirect x.cluster) (ho : o.Direct) :
    Framed (fun _ => True) (create name x o placement) :=
  (framed_ofExcept (P := fun _ => True) fun _ _ => trivial).bind fun _ _ =>
    (framed_register (direct_draft hcluster ho)).imp fun _ _ => trivial

end ManagedGroup

/-- A component with its group is planned alike if the group is. -/
theorem framed_componentPlan {α : Type} {check : Except Failure Unit} {type : String}
    {create : Resource → Plan α} {outputs : α → Entries (Deferred Json)} (htype : type ∈ groupTypes)
    (h : ∀ r, Framed (fun _ => True) (create r)) :
    Framed (fun _ => True) (componentPlan check (groupSelf type name) create outputs) := by
  have self : (groupSelf type name).Direct := {
    component := fun _ => htype
    properties := List.forall_mem_nil _
    after := waitable_nil.direct
    waited := waitable_nil.custom }
  refine (framed_ofExcept (P := fun _ => True) fun _ _ => trivial).bind fun _ _ => ?_
  refine (framed_register self).bind fun r _ => (h r).bind fun a _ => ?_
  exact (framed_publish _ _).bind fun _ _ => framed_pure trivial

end Groups

end FleetPlan
