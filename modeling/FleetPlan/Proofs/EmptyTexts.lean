import FleetPlan.Proofs.FleetRuns
import FleetPlan.Proofs.GroupInventory

/-!
Empty texts among the options of a group.

An option that is a text is looked at for whether it counts as given, and an empty text does not. So
options with empty texts where others have none are checked alike and prepared alike, and a group
that is launched from a template, or managed, is planned alike from them. Two options are looked at
otherwise. An empty price is handed on by a group that is declared in the template of a stack, and
is treated elsewhere; an empty address of a profile is taken for the address.
-/
namespace FleetPlan

open Plan Deferred

/-- The second text is the first, or empty where the first is missing. -/
inductive Text.Blanks : Option String → Option String → Prop
  | same (s : Option String) : Blanks s s
  | blank : Blanks none (some "")

namespace Text.Blanks

variable {s t : Option String} (h : Text.Blanks s t)

include h

theorem isTruthy : optionalIsTruthy t = optionalIsTruthy s := by
  cases h <;> rfl

theorem getD : t.getD "" = s.getD "" := by
  cases h <;> rfl

theorem imageFamily (gpu : Bool) : imageFamily t gpu = imageFamily s gpu := by
  cases h <;> rfl

theorem bootstrapTail (args : List String) : bootstrapTail t args = bootstrapTail s args := by
  cases h <;> rfl

end Text.Blanks

/-- An input that is at hand, left empty where it was missing. -/
inductive TextInput.Blanks : TextInput → TextInput → Prop
  | now {s t : Option String} : Text.Blanks s t → Blanks (.now s) (.now t)
  | later (d : Deferred Json) : Blanks (.later d) (.later d)

namespace TextInput

theorem blanks_refl : (x : TextInput) → x.Blanks x
  | .now s => .now (.same s)
  | .later d => .later d

theorem blanks_empty : Blanks .absent (.now (some "")) := .now .blank

variable {x y : TextInput} (h : x.Blanks y)

include h

theorem Blanks.isTruthy : y.isTruthy = x.isTruthy := by
  cases h with
  | now h => cases h <;> rfl
  | later d => rfl

/-- Only an input that does not count as given can have changed. -/
theorem Blanks.value_eq :
    y.value = x.value ∨ x.value = Pure.pure .null ∧ y.value = Pure.pure (.text "") := by
  cases h with
  | now h =>
      cases h with
      | same s => exact .inl rfl
      | blank => exact .inr ⟨rfl, rfl⟩
  | later d => exact .inl rfl

theorem Blanks.value (given : x.isTruthy = true) : y.value = x.value := by
  cases h with
  | now h =>
      cases h with
      | same s => rfl
      | blank => cases given
  | later d => rfl

/-- A reader that falls back unless the input counts as given reads both alike. -/
theorem Blanks.read {α : Type} (f : Deferred Json → α) (fallback : α) :
    (if y.isTruthy then f y.value else fallback) = if x.isTruthy then f x.value else fallback := by
  rw [h.isTruthy]
  split
  case isTrue given => rw [h.value given]
  case isFalse => rfl

theorem Blanks.value_or (fallback : Deferred Json) :
    (if y.isTruthy then y.value else fallback) = if x.isTruthy then x.value else fallback :=
  h.read id fallback

end TextInput

/-- A profile with an empty address. -/
def Profile.empty : Profile := .address (.now (some ""))

/-- No profile, or an empty address for one. -/
inductive Profile.Blanks : Profile → Profile → Prop
  | same (p : Profile) : Blanks p p
  | blank : Blanks .none .empty

/-- Options that are equal, but for texts of the second that are empty where the first has none. -/
structure WorkerOptions.Blanks (o p : WorkerOptions) : Prop where
  placement : p.placement = o.placement
  type : p.machine.type = o.machine.type
  spotPrice : o.machine.spotPrice.Blanks p.machine.spotPrice
  image : o.machine.image.Blanks p.machine.image
  family : Text.Blanks o.machine.family p.machine.family
  gpu : p.machine.gpu = o.machine.gpu
  version : o.machine.version.Blanks p.machine.version
  firewall : p.firewall = o.firewall
  publicKey : o.access.publicKey.Blanks p.access.publicKey
  keyName : p.access.keyName = o.access.keyName
  volume : p.volume = o.volume
  userScript : o.startup.userScript.Blanks p.startup.userScript
  override : o.startup.override.Blanks p.startup.override
  extraArgs : Text.Blanks o.startup.agent.extraArgs p.startup.agent.extraArgs
  labels : p.startup.agent.labels = o.startup.agent.labels
  taints : p.startup.agent.taints = o.startup.agent.taints
  bootstrapArgs : Text.Blanks o.startup.bootstrapArgs p.startup.bootstrapArgs
  bounds : p.bounds = o.bounds
  profile : o.profile.Blanks p.profile
  groupTags : p.groupTags = o.groupTags
  stackTags : p.stackTags = o.stackTags

structure TemplateOptions.Blanks (o p : TemplateOptions) : Prop
    extends WorkerOptions.Blanks o.toWorkerOptions p.toWorkerOptions where
  healthyShare : p.healthyShare = o.healthyShare
  tagSpecifications : p.tagSpecifications = o.tagSpecifications

structure ManagedOptions.Blanks (o p : ManagedOptions) : Prop where
  clusterName : o.clusterName.Blanks p.clusterName
  roleArn : o.roleArn.Blanks p.roleArn
  others : p = { o with clusterName := p.clusterName, roleArn := p.roleArn }

/-! Each reader of options, from the checks upwards. -/

namespace BootstrapScript

theorem staged_of_falsy (marker : Json) {v : Json} (h : v.isTruthy = false) :
    staged marker v = "" := by
  unfold staged
  rw [if_neg (by rw [h]; exact Bool.false_ne_true)]

/-- A script of the user's that does not count as given plays no part. -/
theorem render_of_falsy (b : BootstrapScript) {v w : Json} (hv : v.isTruthy = false)
    (hw : w.isTruthy = false) :
    render { b with userScript := v } = render { b with userScript := w } := by
  unfold render
  dsimp only
  rw [staged_of_falsy _ hv, staged_of_falsy _ hw]

end BootstrapScript

namespace WorkerOptions.Blanks

variable {o p : WorkerOptions} (h : o.Blanks p)

include h

theorem overridden : p.overridden = o.overridden := by
  simp only [WorkerOptions.overridden, h.userScript.isTruthy, h.labels, h.taints,
    h.extraArgs.isTruthy, h.bootstrapArgs.isTruthy]

theorem check (name : String) : p.check name = o.check name := by
  unfold WorkerOptions.check
  rw [h.publicKey.isTruthy, h.keyName, h.image.isTruthy, h.gpu, h.override.isTruthy, h.overridden,
    h.firewall, h.volume]

theorem imageId (version : Deferred Json) (placement : Placement) :
    p.machine.imageId version placement = o.machine.imageId version placement := by
  simp only [Machine.imageId, h.family.imageFamily, h.gpu]
  exact h.image.read (fun image => Pure.pure image) _

theorem versionOf (cluster : Deferred Cluster) :
    Preparation.versionOf p.machine cluster = Preparation.versionOf o.machine cluster :=
  h.version.value_or _

theorem keyOf (name : String) (placement : Placement) :
    Preparation.keyOf name p.access placement = Preparation.keyOf name o.access placement := by
  unfold Preparation.keyOf
  rw [h.keyName]
  exact h.publicKey.read (fun key => do
    let pair ← Plan.register {
      type := "aws:ec2/keyPair:KeyPair"
      name := name ++ "-keyPair"
      placement := placement
      properties := [("publicKey", key)] }
    return pair.output "keyName") _

theorem agentArgs : p.startup.agent.args = o.startup.agent.args := by
  simp only [AgentSettings.args, h.extraArgs.getD, h.labels, h.taints]

/-- What is prepared is the same, as long as both have the same profile. -/
theorem preparation (hprofile : p.profile = o.profile) (name : String) (cluster : Deferred Cluster)
    (placement : Placement) :
    Preparation.make name p cluster placement = Preparation.make name o cluster placement := by
  simp only [Preparation.make, Preparation.profileOf, WorkerOptions.profileArn, hprofile,
    h.firewall, h.keyOf, h.versionOf, h.imageId, h.placement, h.agentArgs,
    h.bootstrapArgs.bootstrapTail, h.bounds, h.spotPrice.isTruthy]

theorem script (q : Preparation) (cluster : Deferred Cluster) (marker : String)
    (signal : Option (String × Deferred Json)) :
    q.script p cluster marker signal = q.script o cluster marker signal := by
  rcases h.userScript.value_eq with same | ⟨absent, empty⟩
  · simp only [Preparation.script, same]
  · simp only [Preparation.script, ScriptSource.script, Deferred.bind_assoc, absent, empty,
      Deferred.pure_bind]
    refine bind_congr fun clusterName => bind_congr fun endpoint => bind_congr fun authority =>
      bind_congr fun region => congrArg Pure.pure ?_
    exact BootstrapScript.render_of_falsy
      ⟨clusterName, endpoint, authority, q.tail, .null, .text marker, _⟩ rfl rfl

theorem workerTags (cluster : Deferred Cluster) :
    Preparation.workerTags p cluster = Preparation.workerTags o cluster := by
  simp only [Preparation.workerTags, h.groupTags]

end WorkerOptions.Blanks

namespace TemplateOptions.Blanks

variable {o p : TemplateOptions} (h : o.Blanks p)

include h

theorem userData (name : String) (q : Preparation) (cluster : Deferred Cluster) :
    TemplateGroup.userData name q p cluster = TemplateGroup.userData name q o cluster := by
  simp only [TemplateGroup.userData, h.script]
  rw [h.override.value_or]

theorem marketOptions :
    TemplateGroup.marketOptions p.machine.spotPrice =
      TemplateGroup.marketOptions o.machine.spotPrice := by
  unfold TemplateGroup.marketOptions
  exact h.spotPrice.read (fun price => (do
    let price ← price
    return .map [("marketType", .text "spot"), ("spotOptions", .map [("maxPrice", price)])] :
      Deferred Json)) _

theorem templateGroup (hprofile : p.profile = o.profile) (name : String) (x : ClusterInput)
    (placement : Placement) :
    TemplateGroup.create name x p placement = TemplateGroup.create name x o placement := by
  simp only [TemplateGroup.create, TemplateGroup.templateDraft, TemplateGroup.scalingDraft,
    h.check, h.preparation hprofile, h.userData, h.workerTags, h.marketOptions, h.volume,
    h.placement, h.type, h.healthyShare, h.tagSpecifications, h.firewall]

end TemplateOptions.Blanks

namespace ManagedOptions.Blanks

variable {o p : ManagedOptions} (h : o.Blanks p)

include h

theorem role : p.role = o.role := by rw [h.others]

theorem check (name : String) : p.check name = o.check name := by
  simp only [ManagedOptions.check, h.role, h.roleArn.isTruthy]

theorem managedRole (cluster : Deferred Cluster) :
    ManagedGroup.role p cluster = ManagedGroup.role o cluster := by
  have asked : ManagedGroup.askedRole p = ManagedGroup.askedRole o := by
    unfold ManagedGroup.askedRole
    rw [h.role]
    exact h.roleArn.value_or _
  rw [ManagedGroup.role, ManagedGroup.role, asked]

theorem draft (name : String) (cluster : Deferred Cluster) (placement : Placement) :
    ManagedGroup.draft name p cluster placement = ManagedGroup.draft name o cluster placement := by
  rw [ManagedGroup.draft, ManagedGroup.draft, h.clusterName.value_or, h.managedRole, h.others]

theorem managedGroup (name : String) (x : ClusterInput) (placement : Placement) :
    ManagedGroup.create name x p placement = ManagedGroup.create name x o placement := by
  simp only [ManagedGroup.create, h.check, h.draft]

end ManagedOptions.Blanks

/-! An empty address of a profile. -/

/-- The profile that is registered with the machines of a group. -/
def Fleet.profileInput (m : Registration) : Fleet → Json
  | stack _ => m.input "iamInstanceProfile"
  | template _ => (m.input "iamInstanceProfile").member "arn"

section EmptyProfile

variable {o : WorkerOptions} (h : o.profile = .empty)

include h

/-- An empty address is taken, whatever the cluster has. -/
theorem WorkerOptions.profileArn_of_empty (default : Json) :
    o.profileArn default = .ok (Pure.pure (.text "")) := by
  rw [profileArn, h]
  rfl

theorem Preparation.outcome_profileOf_of_empty {cluster : Deferred Cluster} {v : Json}
    (hv : (profileOf o cluster).outcome = .ok v) : v = .text "" := by
  obtain ⟨clusterArn, _, hv⟩ := outcome_bind_eq_ok.mp hv
  rw [WorkerOptions.profileArn_of_empty h] at hv
  cases hv
  rfl

theorem Preparation.profileArn_of_make {name : String} {cluster : Deferred Cluster}
    {placement : Placement} {s : Site} {p : Preparation}
    (hp : (make name o cluster placement s).answer = .ok p) {v : Json}
    (hv : p.profileArn.outcome = .ok v) : v = .text "" := by
  rw [((ensures_serves name o cluster).2 p hp).profileArn] at hv
  exact outcome_profileOf_of_empty h hv

end EmptyProfile

/-- Machines with an empty address for a profile are registered with none other. -/
theorem Fleet.profileInput_of_empty {name : String} {x : ClusterInput} {s : Site} {f : Fleet}
    {form : GroupForm} (hempty : f.options.profile = .empty) {m : Registration}
    (h : .registered m ∈ f.history name x s form) (href : m.ref = f.machineRef name) :
    f.profileInput m = .text "" := by
  have own : m.ref ∈ f.refs name := href ▸ .head _
  obtain ⟨d, here, at_, _, ⟨_, settled⟩ | ⟨other, _⟩⟩ := drafts_of_registered h own
  case inr => exact absurd (href.symm.trans other) (machineRef_ne_scalerRef name f)
  cases f with
  | stack o =>
      obtain ⟨p, _, script, rootDevice, hp, _, _, rfl⟩ := StackGroup.drafts_eq_ok at_.drafted
      obtain ⟨arn, harn, sent⟩ := StackGroup.carries_configuration settled "iamInstanceProfile" rfl
      obtain rfl := Preparation.profileArn_of_make hempty hp harn
      exact sent.trans (Json.wire_text "")
  | template o =>
      obtain ⟨p, _, _, hp, _, rfl⟩ := TemplateGroup.drafts_eq_ok at_.drafted
      obtain ⟨arn, harn, sent⟩ := TemplateGroup.profile_of_settle settled
      obtain rfl := Preparation.profileArn_of_make hempty hp harn
      exact sent.trans (Json.wire_text "")

end FleetPlan
