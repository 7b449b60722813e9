import FleetPlan.Proofs.FleetChecks
import FleetPlan.Proofs.FleetReadiness

/-!
The drafts of a group whose inputs are known.

The description of the machines relies on nothing that is missing but the two values that the checks
guard, and what scales them on nothing but that description.
-/
namespace FleetPlan

open Plan Json Deferred

section Values

variable {name : String} {o : WorkerOptions} {p : Preparation} {cluster : Deferred Cluster}
  {placement : Placement} {s : Site}

theorem holds_script (ho : o.IsKnown) (hc : cluster.Holds Cluster.IsKnown) (marker : String)
    {signal : Option (String × Deferred Json)}
    (hs : ∀ g ∈ signal, g.2.Holds fun _ => True) :
    (p.script o cluster marker signal).Holds fun _ => True := by
  have part {get : Cluster → Part} (hget : get ∈ Cluster.textParts) :
      (cluster.part get).Holds IsTextOrNull := holds_textPart hc hget
  have region : ((signal.map (·.2)).getD (Pure.pure .null) : Deferred Json).Holds fun _ => True := by
    cases signal with
    | none => exact ⟨.null, rfl, trivial⟩
    | some g => exact hs g rfl
  refine Holds.bind (P := fun _ => True) ?_ fun _ _ => holds_pure trivial
  refine (part (by simp [Cluster.textParts])).bind fun _ _ => ?_
  refine (part (by simp [Cluster.textParts])).bind fun _ _ => ?_
  refine (part (by simp [Cluster.textParts])).bind fun _ _ => ?_
  refine (ho.texts o.startup.userScript (by simp [WorkerOptions.textInputs])).bind fun _ _ => ?_
  refine Holds.bind (P := fun _ => True) (holds_pure trivial) fun _ _ => ?_
  refine Holds.bind (P := fun _ => True) (holds_pure trivial) fun _ _ => ?_
  exact region.bind fun _ _ => holds_pure trivial

theorem holds_workerTags (ho : o.IsKnown) (hc : cluster.Holds Cluster.IsKnown) :
    (Preparation.workerTags o cluster).Holds fun es => ∀ e ∈ es, IsTextOrNull e.2 := by
  refine (holds_textPart hc (by simp [Cluster.textParts])).bind fun clusterName _ => ?_
  refine (ho.tags o.groupTags (by simp)).bind fun tags htags => ?_
  obtain ⟨es, hes, known⟩ := Tags.workers_isSome clusterName.display htags
  exact holds_ofOption hes known

theorem succeeds_userData (ho : o.IsKnown) (hc : cluster.Holds Cluster.IsKnown)
    (hp : placement.IsReady) (stack : String) :
    Succeeds (fun d => d.Holds IsTextOrNull) (StackGroup.userData p o cluster placement stack) s := by
  unfold StackGroup.userData
  split
  · exact succeeds_pure (ho.texts _ (by simp [WorkerOptions.textInputs]))
  · have question : Question.region.Askable placement := ⟨hp.server, rfl, rfl⟩
    refine Succeeds.bind (succeeds_deferred (succeeds_askText question ?_)) fun region _ _ hr => ?_
    · exact fun answers => answers
    · refine succeeds_pure (Holds.bind (P := fun _ => True) ?_ fun script _ => ?_)
      · refine holds_script ho hc stack fun g hg => ?_
        cases hg
        exact hr.imp fun _ _ => trivial
      · exact holds_pure (isTextOrNull_text script)

theorem exists_rootDeviceProperty {v : RootVolume} (hv : v.check = .ok ()) (hs : v.CanBeSent) :
    ∃ device, StackGroup.rootDeviceProperty v = .ok device ∧ IsTakenAnywhere device := by
  obtain ⟨⟨i, hi⟩, t, ht⟩ := RootVolume.exists_amounts hv
  have iops := isTakenAnywhere_amount hi fun y hy => hs.amounts y (.inl hy)
  have throughput := isTakenAnywhere_amount ht fun y hy => hs.amounts y (.inr hy)
  refine ⟨_, by rw [StackGroup.rootDeviceProperty, hi, ht]; rfl, ?_⟩
  refine isTakenAnywhere_map ?_
  simp only [List.forall_mem_cons]
  exact ⟨⟨rfl, rfl⟩, ⟨rfl, hs.size⟩, ⟨rfl, rfl⟩, iops, throughput, ⟨rfl, rfl⟩, List.forall_mem_nil _⟩

end Values

namespace Fleet

/-- The properties of the description of the machines that the checks guard. -/
def checkedKeys : Fleet → List String
  | stack _ => ["iamInstanceProfile", "securityGroups"]
  | template _ => ["iamInstanceProfile", "networkInterfaces"]

/-- The properties of what scales the machines that refer to their description. -/
def machineKeys : Fleet → List String
  | stack _ => ["templateBody"]
  | template _ => ["launchTemplate"]

/-- The numbers among the options can be sent, and so can ready-made blocks. -/
def CanBeSent : Fleet → Prop
  | stack o => o.volume.CanBeSent
  | template o => o.CanBeSent

end Fleet

/-- Drafts that rely on nothing that is missing but what the checks guard, and the second of them on
the first. -/
structure FleetDrafts.AreReady (d : FleetDrafts) (f : Fleet) (cluster : Deferred Cluster) :
    Prop where
  machineNamed : d.machine.Named
  scalerNamed : ∀ m, (d.scaler m).Named
  machine : d.machine.ReadyBut f.checkedKeys
  passes : (Preparation.profileOf f.options cluster).Holds IsTextOrNull →
    (Preparation.groupIdsOf d.pair f.options cluster).Holds IsTexts →
    ∀ p ∈ d.machine.properties, p.1 ∈ f.checkedKeys → p.2.Holds (d.machine.Takes p.1)
  fails : ∀ p ∈ d.machine.properties, p.1 ∈ f.checkedKeys → ∀ e, p.2.outcome = .error e →
    (Preparation.profileOf f.options cluster).outcome = .error e ∨
      (Preparation.groupIdsOf d.pair f.options cluster).outcome = .error e
  scaler : ∀ m, (d.scaler m).ReadyBut f.machineKeys
  scalerPasses : ∀ m, Resource.Exists m → ∀ p ∈ (d.scaler m).properties, p.1 ∈ f.machineKeys →
    p.2.Holds ((d.scaler m).Takes p.1)
  scalerFails : ∀ m e, Resource.outputs m = .error e → ∀ p ∈ (d.scaler m).properties,
    p.1 ∈ f.machineKeys → p.2.outcome = .error e

section StackDrafts

variable {name : String} {o : WorkerOptions} {p : Preparation} {cluster : Deferred Cluster}
  {placement : Placement} {s : Site}

theorem holds_dependencies (hp : p.Serves name o cluster) (hc : cluster.Holds Cluster.IsKnown) :
    p.dependencies.Holds fun rs => ∀ r ∈ rs, r.failure? = none := by
  rw [hp.dependencies]
  exact holds_fleetDependencies hc

theorem ready_configurationDraft (ho : o.IsKnown) (hp : p.IsKnown) (hpl : placement.IsReady)
    {device : Json} (hdevice : IsTakenAnywhere device)
    {userData : Deferred Json} (hu : userData.Holds IsTextOrNull) :
    (StackGroup.configurationDraft name o p placement device userData).ReadyBut
      ["iamInstanceProfile", "securityGroups"] := by
  refine ⟨⟨hpl.parent, hpl.neededProvider rfl, ?_⟩, holds_pure (List.forall_mem_nil _)⟩
  have text {x : TextInput} (hx : x ∈ o.textInputs) : x.value.Holds IsTextOrNull := ho.texts x hx
  simp only [StackGroup.configurationDraft, List.forall_mem_cons]
  refine ⟨fun _ => ?_, fun _ => ?_, fun _ => ?_, fun h => ?_, fun _ => ?_, fun h => ?_, fun _ => ?_,
    fun _ => ?_, fun _ => ?_, List.forall_mem_nil _⟩
  · exact holds_pure (Draft.takes_anywhere ⟨rfl, rfl⟩)
  · exact hp.imageId.imp fun _ h => Draft.takes_textOrNull h
  · exact (text (by simp [WorkerOptions.textInputs])).imp fun _ h => Draft.takes_textOrNull h
  · exact absurd (.head _) h
  · exact hp.keyName.imp fun _ h => Draft.takes_textOrNull h
  · exact absurd (.tail _ (.head _)) h
  · exact (text (by simp [WorkerOptions.textInputs])).imp fun _ h => Draft.takes_textOrNull h
  · exact holds_pure (Draft.takes_anywhere hdevice)
  · exact hu.imp fun _ h => Draft.takes_textOrNull h

theorem ready_stackDraft (ho : o.IsKnown) (hc : cluster.Holds Cluster.IsKnown)
    (hs : p.Serves name o cluster) (hpl : placement.IsReady) (stack : String) (m : Resource) :
    (StackGroup.stackDraft name stack o p cluster placement m).ReadyBut ["templateBody"] := by
  refine ⟨⟨hpl.parent, hpl.neededProvider rfl, ?_⟩, holds_dependencies hs hc⟩
  simp only [StackGroup.stackDraft, List.forall_mem_cons]
  refine ⟨fun _ => ?_, fun h => ?_, fun _ => ?_, List.forall_mem_nil _⟩
  · exact holds_pure (Draft.takes_textOrNull (isTextOrNull_text _))
  · exact absurd (.head _) h
  · refine (holds_tagPart hc (by simp [Cluster.tagParts])).bind fun own hown => ?_
    refine (ho.tags o.stackTags (by simp)).bind fun asked hasked => ?_
    obtain ⟨es, hes, known⟩ := Tags.stack_isSome name hasked hown
    exact (holds_ofOption hes known).bind fun _ h =>
      holds_pure (Draft.takes_anywhere (isTakenAnywhere_tags h))

theorem holds_templateBody (ho : o.IsKnown) (hc : cluster.Holds Cluster.IsKnown) (hp : p.IsKnown)
    {m : Resource} (hm : m.Exists) :
    (StackGroup.templateBody o p cluster m).Holds IsTextOrNull := by
  refine (hm.output "name").bind fun _ _ => ?_
  refine hp.subnets.bind fun subnets hsubnets => ?_
  refine (holds_workerTags ho hc).bind fun tags _ => ?_
  obtain ⟨vs, rfl, _⟩ := hsubnets
  refine Holds.bind (P := fun _ => True) ?_ fun _ _ => holds_pure (isTextOrNull_text _)
  exact holds_ofOption (a := vs) rfl trivial

theorem checked_configurationDraft (device : Json) (userData : Deferred Json) :
    ∀ q ∈ (StackGroup.configurationDraft name o p placement device userData).properties,
      q.1 ∈ ["iamInstanceProfile", "securityGroups"] →
        q = ("iamInstanceProfile", p.profileArn) ∨ q = ("securityGroups", p.groupIds) := by
  simp [StackGroup.configurationDraft]

theorem machine_stackDraft (stack : String) (m : Resource) :
    ∀ q ∈ (StackGroup.stackDraft name stack o p cluster placement m).properties,
      q.1 ∈ ["templateBody"] → q = ("templateBody", StackGroup.templateBody o p cluster m) := by
  simp [StackGroup.stackDraft]

theorem areReady_stackDrafts (ho : o.IsKnown)
    (hc : cluster.Holds Cluster.IsKnown) (hp : p.IsKnown) (hs : p.Serves name o cluster)
    (hpl : placement.IsReady) (stack : String) {device : Json}
    (hdevice : IsTakenAnywhere device)
    {userData : Deferred Json} (hu : userData.Holds IsTextOrNull) :
    (FleetDrafts.mk p.pair (StackGroup.configurationDraft name o p placement device userData)
      (StackGroup.stackDraft name stack o p cluster placement)).AreReady (.stack o) cluster := by
  constructor
  case machineNamed => exact ⟨name_append_ne name (by decide), hpl.sound⟩
  case scalerNamed => exact fun m => ⟨name_append_ne name (by decide), hpl.sound⟩
  case machine => exact ready_configurationDraft ho hp hpl hdevice hu
  case scaler => exact ready_stackDraft ho hc hs hpl stack
  case passes =>
    intro hprofile hgroups q hq hk
    have profile : p.profileArn.Holds IsTextOrNull := hs.profileArn ▸ hprofile
    have groups : p.groupIds.Holds IsTexts := hs.groupIds ▸ hgroups
    have listed (v) (h : IsTexts v) : (StackGroup.configurationDraft name o p placement device
        userData).Takes "securityGroups" v := Draft.takes_texts rfl h
    rcases checked_configurationDraft device userData q hq hk with rfl | rfl
    · exact profile.imp fun _ h => Draft.takes_textOrNull h
    · exact groups.imp listed
  case fails =>
    intro q hq hk e he
    rcases checked_configurationDraft device userData q hq hk with rfl | rfl
    · exact .inl (hs.profileArn ▸ he)
    · exact .inr (hs.groupIds ▸ he)
  case scalerPasses =>
    intro m hm q hq hk
    obtain rfl := machine_stackDraft stack m q hq hk
    exact (holds_templateBody ho hc hp hm).imp fun _ h => Draft.takes_textOrNull h
  case scalerFails =>
    intro m e he q hq hk
    obtain rfl := machine_stackDraft stack m q hq hk
    exact outcome_bind_of_error (Resource.outcome_output he "name") _

end StackDrafts

section TemplateDrafts

variable {name : String} {o : TemplateOptions} {p : Preparation} {cluster : Deferred Cluster}
  {placement : Placement} {s : Site}

theorem holds_blockDevice (hv : o.volume.check = .ok ()) (hs : o.CanBeSent)
    {image : Deferred Json} (hi : image.Holds IsTextOrNull) :
    ∃ device, TemplateGroup.blockDevice o.volume image = .ok device ∧
      device.Holds IsTakenAnywhere := by
  obtain ⟨⟨i, hi'⟩, t, ht⟩ := RootVolume.exists_amounts hv
  have iops := isTakenAnywhere_amount hi' fun y hy => hs.volume.amounts y (.inl hy)
  have throughput := isTakenAnywhere_amount ht fun y hy => hs.volume.amounts y (.inr hy)
  refine ⟨_, by rw [TemplateGroup.blockDevice, hi', ht]; rfl, ?_⟩
  refine hi.bind fun v hv => holds_pure (isTakenAnywhere_map ?_)
  refine List.forall_mem_cons.mpr ⟨isTakenAnywhere_textOrNull hv, ?_⟩
  refine List.forall_mem_singleton.mpr (isTakenAnywhere_map ?_)
  simp only [List.forall_mem_cons]
  exact ⟨⟨rfl, rfl⟩, ⟨rfl, hs.volume.size⟩, ⟨rfl, rfl⟩, iops, throughput, ⟨rfl, rfl⟩,
    List.forall_mem_nil _⟩

theorem holds_userData (ho : o.toWorkerOptions.IsKnown) (hc : cluster.Holds Cluster.IsKnown) :
    (TemplateGroup.userData name p o cluster).Holds IsTextOrNull := by
  refine Holds.bind (P := fun v => ∃ t, v = Value.text t) ?_ ?_
  · split
    case isTrue given => exact ho.override given
    case isFalse =>
      have unsignalled : ∀ g ∈ (none : Option (String × Deferred Json)), g.2.Holds fun _ => True :=
        fun _ hg => nomatch hg
      refine (holds_script ho hc name unsignalled).bind fun script _ => ?_
      exact holds_pure ⟨script, rfl⟩
  · rintro _ ⟨script, rfl⟩
    exact holds_pure (isTextOrNull_text _)

theorem holds_marketOptions (ho : o.toWorkerOptions.IsKnown) :
    (TemplateGroup.marketOptions o.machine.spotPrice).Holds
      IsTakenAnywhere := by
  unfold TemplateGroup.marketOptions
  split
  · refine (ho.texts o.machine.spotPrice (by simp [WorkerOptions.textInputs])).bind fun price h => ?_
    refine holds_pure (isTakenAnywhere_map ?_)
    simp only [List.forall_mem_cons]
    refine ⟨⟨rfl, rfl⟩, isTakenAnywhere_map ?_, List.forall_mem_nil _⟩
    exact List.forall_mem_singleton.mpr (isTakenAnywhere_textOrNull h)
  · exact holds_pure ⟨rfl, rfl⟩

theorem holds_blockList (hs : o.CanBeSent) :
    (TemplateGroup.blockList o.tagSpecifications).Holds fun v =>
      v = .null ∨ ∃ vs, v = .list vs ∧ ∀ w ∈ vs, IsTakenAnywhere w := by
  cases hb : o.tagSpecifications with
  | none => exact holds_pure (.inl rfl)
  | some bs =>
      have known : ∀ d ∈ bs.map Block.body, d.Holds IsTakenAnywhere := by
        intro d hd
        obtain ⟨b, hb', rfl⟩ := List.mem_map.mp hd
        exact hs.blocks bs hb b hb'
      exact (holds_all known).bind fun vs hvs => holds_pure (.inr ⟨vs, rfl, hvs⟩)

theorem ready_templateDraft (ho : o.toWorkerOptions.IsKnown) (hs : o.CanBeSent) (hp : p.IsKnown)
    (hpl : placement.IsReady) {device userData : Deferred Json}
    (hd : device.Holds IsTakenAnywhere)
    (hu : userData.Holds IsTextOrNull) :
    (TemplateGroup.templateDraft name o p placement device userData).ReadyBut
      ["iamInstanceProfile", "networkInterfaces"] := by
  refine ⟨⟨hpl.parent, hpl.neededProvider rfl, ?_⟩, holds_pure (List.forall_mem_nil _)⟩
  simp only [TemplateGroup.templateDraft, List.forall_mem_cons]
  refine ⟨fun _ => ?_, fun _ => ?_, fun h => ?_, fun _ => ?_, fun _ => ?_, fun _ => ?_, fun h => ?_,
    fun _ => ?_, fun _ => ?_, List.forall_mem_nil _⟩
  · exact hp.imageId.imp fun _ h => Draft.takes_textOrNull h
  · exact (ho.texts o.machine.type (by simp [WorkerOptions.textInputs])).imp fun _ h =>
      Draft.takes_textOrNull h
  · exact absurd (.head _) h
  · exact hp.keyName.imp fun _ h => Draft.takes_textOrNull h
  · exact (holds_marketOptions ho).imp fun _ h => Draft.takes_anywhere h
  · refine hd.bind fun v hv => holds_pure (Draft.takes_list rfl ?_)
    exact List.forall_mem_singleton.mpr hv
  · exact absurd (.tail _ (.head _)) h
  · exact hu.imp fun _ h => Draft.takes_textOrNull h
  · refine (holds_blockList hs).imp fun v hv => ?_
    rcases hv with rfl | ⟨vs, rfl, hvs⟩
    · exact Draft.takes_anywhere ⟨rfl, rfl⟩
    · exact Draft.takes_list rfl hvs

theorem ready_scalingDraft (ho : o.toWorkerOptions.IsKnown) (hs : o.CanBeSent)
    (hc : cluster.Holds Cluster.IsKnown) (hp : p.IsKnown)
    (hserves : p.Serves name o.toWorkerOptions cluster) (hpl : placement.IsReady) (m : Resource) :
    (TemplateGroup.scalingDraft name o p cluster placement m).ReadyBut ["launchTemplate"] := by
  refine ⟨⟨hpl.parent, hpl.neededProvider rfl, ?_⟩, holds_dependencies hserves hc⟩
  simp only [TemplateGroup.scalingDraft, List.forall_mem_cons, hserves.range]
  refine ⟨fun _ => ?_, fun _ => ?_, fun _ => ?_, fun _ => ?_, fun h => ?_, fun _ => ?_, fun _ => ?_,
    fun _ => ?_, List.forall_mem_nil _⟩
  · exact holds_pure (Draft.takes_textOrNull (isTextOrNull_text _))
  · exact holds_pure (Draft.takes_anywhere ⟨rfl, hs.least⟩)
  · exact holds_pure (Draft.takes_anywhere ⟨rfl, hs.most⟩)
  · exact holds_pure (Draft.takes_anywhere ⟨rfl, hs.desired⟩)
  · exact absurd (.head _) h
  · exact hp.subnets.imp fun _ h => Draft.takes_texts rfl h
  · refine hs.healthyShare.bind fun v hv => holds_pure (Draft.takes_anywhere ?_)
    refine isTakenAnywhere_map (List.forall_mem_cons.mpr ⟨⟨rfl, rfl⟩, ?_⟩)
    refine List.forall_mem_singleton.mpr (isTakenAnywhere_map ?_)
    exact List.forall_mem_singleton.mpr hv
  · refine (holds_workerTags ho hc).bind fun tags htags => holds_pure (Draft.takes_list rfl ?_)
    intro v hv
    obtain ⟨t, ht, rfl⟩ := List.mem_map.mp hv
    obtain ⟨e, he, rfl⟩ := List.mem_map.mp ht
    refine isTakenAnywhere_map ?_
    simp only [List.forall_mem_cons]
    exact ⟨⟨rfl, rfl⟩, isTakenAnywhere_textOrNull (htags e he), ⟨rfl, rfl⟩, List.forall_mem_nil _⟩

/-- The network interface of the machines, with the ids of their security groups. -/
def networkInterfaces (publicAddress : Bool) (groups : Json) : Json :=
  .list [.map [
    ("associatePublicIpAddress", TemplateGroup.flagText publicAddress),
    ("securityGroups", groups)]]

theorem checked_templateDraft (device userData : Deferred Json) :
    ∀ q ∈ (TemplateGroup.templateDraft name o p placement device userData).properties,
      q.1 ∈ ["iamInstanceProfile", "networkInterfaces"] →
        q = ("iamInstanceProfile", p.profileArn >>= fun arn => Pure.pure (.map [("arn", arn)])) ∨
          q = ("networkInterfaces", p.groupIds >>= fun groups =>
            Pure.pure (networkInterfaces o.placement.publicAddress groups)) := by
  simp [TemplateGroup.templateDraft, networkInterfaces]

theorem machine_scalingDraft (m : Resource) :
    ∀ q ∈ (TemplateGroup.scalingDraft name o p cluster placement m).properties,
      q.1 ∈ ["launchTemplate"] → q = ("launchTemplate", do
        let templateName ← m.output "name"
        let version ← m.output "latestVersion"
        return .map [("name", templateName), ("version", .text version.display)]) := by
  simp [TemplateGroup.scalingDraft]

theorem takes_networkInterfaces {device userData : Deferred Json} {groups : Json}
    (h : IsTexts groups) (publicAddress : Bool) :
    (TemplateGroup.templateDraft name o p placement device userData).Takes "networkInterfaces"
      (networkInterfaces publicAddress groups) := by
  obtain ⟨vs, rfl, hvs⟩ := h
  have flag : IsTakenAnywhere (TemplateGroup.flagText publicAddress) := by
    cases publicAddress <;> exact ⟨rfl, rfl⟩
  have element (w) (hw : w ∈ vs) : IsTakenAnywhere w := isTakenAnywhere_textOrNull (hvs w hw)
  constructor
  · refine Shape.takes_list (s := .record [("securityGroups", Shape.singles)]) rfl ?_
    refine List.forall_mem_singleton.mpr ?_
    simp only [Shape.spell, Shape.fits, Shape.membersFit_spellMembers, List.all_cons, List.all_nil,
      Bool.and_true, Bool.and_eq_true]
    refine ⟨Shape.takes_listFree flag.listFree _ _, Shape.takes_list rfl fun w hw => ?_⟩
    exact Shape.fits_spell w (element w hw).listFree _
  · have groups : areSendable vs = true := by
      rw [areSendable_eq_all, List.all_eq_true]
      exact fun w hw => (element w hw).sendable
    simp only [networkInterfaces, isSendable, areSendable, entriesSendable, flag.sendable, groups,
      Bool.and_self]

theorem areReady_templateDrafts (hname : name ≠ "") (ho : o.toWorkerOptions.IsKnown)
    (hsend : o.CanBeSent) (hc : cluster.Holds Cluster.IsKnown) (hp : p.IsKnown)
    (hs : p.Serves name o.toWorkerOptions cluster) (hpl : placement.IsReady)
    {device : Deferred Json} (hdevice : device.Holds IsTakenAnywhere) :
    (FleetDrafts.mk p.pair (TemplateGroup.templateDraft name o p placement device
      (TemplateGroup.userData name p o cluster))
      (TemplateGroup.scalingDraft name o p cluster placement)).AreReady (.template o) cluster := by
  constructor
  case machineNamed => exact ⟨name_append_ne name (by decide), hpl.sound⟩
  case scalerNamed => exact fun m => ⟨hname, hpl.sound⟩
  case machine => exact ready_templateDraft ho hsend hp hpl hdevice (holds_userData ho hc)
  case scaler => exact ready_scalingDraft ho hsend hc hp hs hpl
  case passes =>
    intro hprofile hgroups q hq hk
    have profile : p.profileArn.Holds IsTextOrNull := hs.profileArn ▸ hprofile
    have groups : p.groupIds.Holds IsTexts := hs.groupIds ▸ hgroups
    rcases checked_templateDraft device _ q hq hk with rfl | rfl
    · refine profile.bind fun arn harn => holds_pure (Draft.takes_anywhere (isTakenAnywhere_map ?_))
      exact List.forall_mem_singleton.mpr (isTakenAnywhere_textOrNull harn)
    · exact groups.bind fun ids hids => holds_pure (takes_networkInterfaces hids _)
  case fails =>
    intro q hq hk e he
    rcases checked_templateDraft device _ q hq hk with rfl | rfl
    · exact .inl (hs.profileArn ▸ error_of_map he)
    · exact .inr (hs.groupIds ▸ error_of_map he)
  case scalerPasses =>
    intro m hm q hq hk
    obtain rfl := machine_scalingDraft m q hq hk
    refine (hm.naming (by simp [namingOutputs])).bind fun templateName hname => ?_
    refine (hm.output "latestVersion").bind fun version _ => ?_
    refine holds_pure (Draft.takes_anywhere (isTakenAnywhere_map ?_))
    simp only [List.forall_mem_cons]
    exact ⟨isTakenAnywhere_textOrNull hname, ⟨rfl, rfl⟩, List.forall_mem_nil _⟩
  case scalerFails =>
    intro m e he q hq hk
    obtain rfl := machine_scalingDraft m q hq hk
    exact outcome_bind_of_error (Resource.outcome_output he "name") _

theorem succeeds_rootDevice {image : Deferred Json} (hi : image.Holds IsTextOrNull)
    (hpl : placement.IsReady) :
    Succeeds (fun d => d.Holds IsTextOrNull) (rootDevice image placement) s := by
  refine succeeds_whenKnown hi fun id hid => ?_
  obtain ⟨t, rfl⟩ := hid
  have question : (Question.image (.ofText t)).Askable placement := by
    refine ⟨hpl.server, ?_, ?_⟩ <;> cases t <;> rfl
  refine (succeeds_ask (P := fun devices => ∃ t rest, devices = Value.text t :: rest) question
    fun answers => ?_).bind ?_
  · obtain ⟨t, rest, h⟩ := answers
    exact ⟨_, h, t, rest, rfl⟩
  · rintro _ _ _ ⟨t, rest, rfl⟩
    exact succeeds_pure (holds_pure (isTextOrNull_wire (isTextOrNull_text t)))

end TemplateDrafts

/-- When nothing but the checks stands in the way of a group, its drafts are made, and they are
ready. -/
theorem succeeds_drafts {f : Fleet} {name : String} {cluster : Deferred Cluster}
    {placement : Placement} {s : Site} (hname : name ≠ "") (hchecked : f.options.check name = .ok ())
    (ho : f.options.IsKnown) (hsend : f.CanBeSent) (hc : cluster.Holds Cluster.IsKnown)
    (hpl : placement.IsReady) (hs : s.IsReady) :
    Succeeds (fun d => d.AreReady f cluster ∧ d.pair.group.Exists ∧ d.pair.rule.Exists)
      (f.drafts name cluster placement) s := by
  have volume := (WorkerOptions.of_check hchecked).2
  have made := (succeeds_make ho hchecked hc hpl hs).and_ensures
    (ensures_serves name f.options cluster)
  cases f with
  | stack o =>
      refine made.bind fun p _ _ hp => ?_
      refine succeeds_site.bind fun site _ _ _ => ?_
      refine (succeeds_userData ho hc hpl _).bind fun userData _ _ hu => ?_
      obtain ⟨device, hdevice, anywhere⟩ := exists_rootDeviceProperty volume hsend
      refine (succeeds_ofExcept (P := fun v => v = device) hdevice rfl).bind ?_
      rintro _ _ _ rfl
      exact succeeds_pure
        ⟨areReady_stackDrafts ho hc hp.1 hp.2 hpl _ anywhere hu, hp.1.group, hp.1.rule⟩
  | template o =>
      refine made.bind fun p _ _ hp => ?_
      refine (succeeds_rootDevice hp.1.imageId hpl).bind fun image _ _ himage => ?_
      obtain ⟨device, hdevice, anywhere⟩ := holds_blockDevice volume hsend himage
      refine (succeeds_ofExcept (P := fun v => v = device) hdevice rfl).bind ?_
      rintro _ _ _ rfl
      exact succeeds_pure
        ⟨areReady_templateDrafts hname ho hsend hc hp.1 hp.2 hpl anywhere, hp.1.group, hp.1.rule⟩

end FleetPlan
