import FleetPlan.Proofs.ClusterDeferral
import FleetPlan.Proofs.GroupInventory
import FleetPlan.Stack.Program

/-!
Deferral in the options of a group plays no part in what becomes of the group.

Options are read in three ways only: whether one is given, whether it counts as true, and what it
amounts to. Putting off an option that counts as true, or anything inside a list or a map, changes
none of these, so the options are checked alike and the groups planned alike. An empty text is left
out: put off, it would count as given.
-/
namespace FleetPlan

/-- The second input is the first put off, any number of times, perhaps with something put off
inside. What is put off comes from no resources of its own. -/
inductive Input.Postpones {α : Type} (inside : α → α → Prop) (admits : Input α → Prop)
    (write : α → Deferred Json) : Input α → Input α → Prop
  | same (x : Input α) : Postpones inside admits write x x
  | inside {a b : α} : inside a b → Postpones inside admits write (.now a) (.now b)
  | later {x y : Input α} : Postpones inside admits write x y → admits y →
      Postpones inside admits write x (.later (y.resolve write))

namespace Input

variable {α : Type} {inside : α → α → Prop} {admits : Input α → Prop} {write : α → Deferred Json}

theorem Postpones.resolve {x y : Input α} (hinside : ∀ a b, inside a b → write b = write a)
    (h : Postpones inside admits write x y) : y.resolve write = x.resolve write := by
  induction h with
  | same x => rfl
  | inside h => exact hinside _ _ h
  | later _ _ ih => exact ih

/-- What the inputs that may be put off have in common with all that is put off, putting off
keeps. -/
theorem Postpones.reads {x y : Input α} {read : Input α → Bool}
    (hinside : ∀ a b, inside a b → read (.now b) = read (.now a))
    (hadmits : ∀ x, admits x → read x = true) (hlater : ∀ d, read (.later d) = true)
    (h : Postpones inside admits write x y) : read y = read x := by
  induction h with
  | same x => rfl
  | inside h => exact hinside _ _ h
  | later _ hy ih => rw [hlater, ← ih, hadmits _ hy]

end Input

/-- A text put off, unless it is empty or absent. -/
def TextInput.Postpones : TextInput → TextInput → Prop :=
  Input.Postpones Eq (fun x => TextInput.isTruthy x = true) fun s => pure (.ofText s)

namespace TextInput

variable {x y : TextInput} (h : TextInput.Postpones x y)

include h

theorem Postpones.value : y.value = x.value :=
  Input.Postpones.resolve (by rintro _ _ rfl; rfl) h

theorem Postpones.isTruthy : y.isTruthy = x.isTruthy :=
  Input.Postpones.reads (by rintro _ _ rfl; rfl) (fun _ h => h) (fun _ => rfl) h

theorem Postpones.isGiven : y.isGiven = x.isGiven := by
  refine Input.Postpones.reads (by rintro _ _ rfl; rfl) (fun x hx => ?_) (fun _ => rfl) h
  cases x with
  | now s => cases s <;> first | rfl | cases hx
  | later d => rfl

end TextInput

/-- An element of a list or a value of a map put off. -/
def Input.PostponesElement : Input String → Input String → Prop :=
  Input.Postpones Eq (fun _ => True) fun s => pure (.text s)

theorem Input.PostponesElement.element {x y : Input String} (h : Input.PostponesElement x y) :
    y.element = x.element :=
  Input.Postpones.resolve (by rintro _ _ rfl; rfl) h

/-- A list put off, or some of its elements. -/
def ListInput.Postpones : ListInput → ListInput → Prop :=
  Input.Postpones (Option.Rel (List.Forall₂ Input.PostponesElement)) (fun x => x.isGiven = true)
    fun
    | none => pure .null
    | some xs => do return .list (← Deferred.all (xs.map Input.element))

namespace ListInput

theorem map_element {xs ys : List (Input String)} (h : List.Forall₂ Input.PostponesElement xs ys) :
    ys.map Input.element = xs.map Input.element := by
  induction h with
  | nil => rfl
  | cons h _ ih => rw [List.map_cons, List.map_cons, h.element, ih]

variable {x y : ListInput} (h : ListInput.Postpones x y)

include h

theorem Postpones.value : y.value = x.value := by
  refine Input.Postpones.resolve (fun _ _ h => ?_) h
  cases h with
  | some h => simp only [map_element h]
  | none => rfl

theorem Postpones.isGiven : y.isGiven = x.isGiven := by
  refine Input.Postpones.reads (fun _ _ h => ?_) (fun _ h => h) (fun _ => rfl) h
  cases h <;> rfl

theorem Postpones.value? : y.value? = x.value? := by
  simp only [ListInput.value?, Postpones.value h, Postpones.isGiven h]

end ListInput

/-- Two entries of one key, the value of the first put off in the second. -/
def TagsInput.PostponesEntry (e f : String × Input String) : Prop :=
  f.1 = e.1 ∧ Input.PostponesElement e.2 f.2

/-- A map put off, or some of its values. -/
def TagsInput.Postpones : TagsInput → TagsInput → Prop :=
  Input.Postpones (Option.Rel (List.Forall₂ TagsInput.PostponesEntry)) (fun x => x.isGiven = true)
    fun
    | none => pure .null
    | some es => do return .map (← Deferred.entries (Entries.mapValues Input.element es))

namespace TagsInput

theorem mapValues_element {es fs : Entries (Input String)} (h : List.Forall₂ PostponesEntry es fs) :
    Entries.mapValues Input.element fs = Entries.mapValues Input.element es := by
  induction h with
  | nil => rfl
  | cons h _ ih =>
      simp only [Entries.mapValues, List.map_cons, h.1, h.2.element] at ih ⊢
      rw [ih]

theorem Postpones.value {x y : TagsInput} (h : TagsInput.Postpones x y) : y.value = x.value := by
  refine Input.Postpones.resolve (fun _ _ h => ?_) h
  cases h with
  | some h => simp only [mapValues_element h]
  | none => rfl

end TagsInput

/-- A whole number put off. -/
def Input.PostponesInt : Input Int → Input Int → Prop :=
  Input.Postpones Eq (fun _ => True) fun n => pure (.int n)

theorem Input.PostponesInt.resolve {x y : Input Int} (h : Input.PostponesInt x y) :
    (y.resolve fun n => (pure (.int n) : Deferred Json)) = x.resolve fun n => pure (.int n) :=
  Input.Postpones.resolve (by rintro _ _ rfl; rfl) h

/-- The address of a profile put off. -/
inductive Profile.Postpones : Profile → Profile → Prop
  | same (p : Profile) : Postpones p p
  | address {x y : TextInput} : TextInput.Postpones x y → Postpones (.address x) (.address y)

namespace Profile

variable {p q : Profile} (h : Profile.Postpones p q)

include h

theorem Postpones.arn : TextInput.Postpones p.arn q.arn := by
  cases h with
  | same p => exact .same _
  | address h => exact h

end Profile

/-- Options of which some in the second are those of the first put off; what is never deferred is
the same. -/
structure WorkerOptions.Postpones (o p : WorkerOptions) : Prop where
  subnets : ListInput.Postpones o.placement.subnets p.placement.subnets
  publicAddress : p.placement.publicAddress = o.placement.publicAddress
  type : TextInput.Postpones o.machine.type p.machine.type
  spotPrice : TextInput.Postpones o.machine.spotPrice p.machine.spotPrice
  image : TextInput.Postpones o.machine.image p.machine.image
  family : p.machine.family = o.machine.family
  gpu : p.machine.gpu = o.machine.gpu
  version : TextInput.Postpones o.machine.version p.machine.version
  firewall : p.firewall = o.firewall
  publicKey : TextInput.Postpones o.access.publicKey p.access.publicKey
  keyName : TextInput.Postpones o.access.keyName p.access.keyName
  volume : p.volume = o.volume
  userScript : TextInput.Postpones o.startup.userScript p.startup.userScript
  override : TextInput.Postpones o.startup.override p.startup.override
  agent : p.startup.agent = o.startup.agent
  bootstrapArgs : p.startup.bootstrapArgs = o.startup.bootstrapArgs
  bounds : p.bounds = o.bounds
  profile : Profile.Postpones o.profile p.profile
  groupTags : TagsInput.Postpones o.groupTags p.groupTags
  stackTags : TagsInput.Postpones o.stackTags p.stackTags

structure TemplateOptions.Postpones (o p : TemplateOptions) : Prop
    extends WorkerOptions.Postpones o.toWorkerOptions p.toWorkerOptions where
  healthyShare : Input.PostponesInt o.healthyShare p.healthyShare
  tagSpecifications : p.tagSpecifications = o.tagSpecifications

structure ManagedOptions.Postpones (o p : ManagedOptions) : Prop where
  groupName : TextInput.Postpones o.groupName p.groupName
  clusterName : TextInput.Postpones o.clusterName p.clusterName
  role : p.role = o.role
  roleArn : TextInput.Postpones o.roleArn p.roleArn
  subnets : ListInput.Postpones o.subnets p.subnets
  scaling : p.scaling = o.scaling
  instanceTypes : p.instanceTypes = o.instanceTypes
  purchase : p.purchase = o.purchase
  image : p.image = o.image
  diskSize : p.diskSize = o.diskSize
  releaseVersion : TextInput.Postpones o.releaseVersion p.releaseVersion
  version : TextInput.Postpones o.version p.version
  forceUpdate : p.forceUpdate = o.forceUpdate
  labels : p.labels = o.labels
  taints : p.taints = o.taints
  launchTemplate : p.launchTemplate = o.launchTemplate
  remoteAccess : p.remoteAccess = o.remoteAccess
  updatePolicy : p.updatePolicy = o.updatePolicy
  tags : p.tags = o.tags

/-! Each reader of options, from the checks upwards. -/

namespace WorkerOptions.Postpones

variable {o p : WorkerOptions} (h : o.Postpones p)

include h

theorem overridden : p.overridden = o.overridden := by
  simp only [WorkerOptions.overridden, h.userScript.isTruthy, h.agent, h.bootstrapArgs]

theorem check (name : String) : p.check name = o.check name := by
  unfold WorkerOptions.check
  rw [h.publicKey.isTruthy, h.keyName.isTruthy, h.image.isTruthy, h.gpu, h.override.isTruthy,
    h.overridden, h.firewall, h.volume]

theorem profileArn (default : Json) : p.profileArn default = o.profileArn default := by
  simp only [WorkerOptions.profileArn, h.profile.arn.isGiven, h.profile.arn.value]

theorem imageId (version : Deferred Json) (placement : Placement) :
    p.machine.imageId version placement = o.machine.imageId version placement := by
  simp only [Machine.imageId, h.image.isTruthy, h.image.value, h.family, h.gpu]

theorem versionOf (cluster : Deferred Cluster) :
    Preparation.versionOf p.machine cluster = Preparation.versionOf o.machine cluster := by
  simp only [Preparation.versionOf, h.version.isTruthy, h.version.value]

theorem keyOf (name : String) (placement : Placement) :
    Preparation.keyOf name p.access placement = Preparation.keyOf name o.access placement := by
  simp only [Preparation.keyOf, h.publicKey.isTruthy, h.publicKey.value, h.keyName.value]

theorem preparation (name : String) (cluster : Deferred Cluster) (placement : Placement) :
    Preparation.make name p cluster placement = Preparation.make name o cluster placement := by
  simp only [Preparation.make, Preparation.profileOf, h.firewall, h.keyOf, h.versionOf, h.imageId,
    h.subnets.value?, h.profileArn, h.bootstrapArgs, h.agent, h.bounds, h.spotPrice.isTruthy]

theorem script (q : Preparation) (cluster : Deferred Cluster) (marker : String)
    (signal : Option (String × Deferred Json)) :
    q.script p cluster marker signal = q.script o cluster marker signal := by
  simp only [Preparation.script, h.userScript.value]

theorem workerTags (cluster : Deferred Cluster) :
    Preparation.workerTags p cluster = Preparation.workerTags o cluster := by
  simp only [Preparation.workerTags, h.groupTags.value]

theorem stackGroup (name : String) (x : ClusterInput) (placement : Placement) :
    StackGroup.create name x p placement = StackGroup.create name x o placement := by
  simp only [StackGroup.create, StackGroup.userData, StackGroup.configurationDraft,
    StackGroup.stackDraft, StackGroup.templateBody, h.check, h.preparation, h.script, h.workerTags,
    h.override.isTruthy, h.override.value, h.volume, h.publicAddress, h.type.value,
    h.spotPrice.value, h.stackTags.value, h.firewall]

end WorkerOptions.Postpones

namespace TemplateOptions.Postpones

variable {o p : TemplateOptions} (h : o.Postpones p)

include h

theorem userData (name : String) (q : Preparation) (cluster : Deferred Cluster) :
    TemplateGroup.userData name q p cluster = TemplateGroup.userData name q o cluster := by
  simp only [TemplateGroup.userData, h.override.isTruthy, h.override.value, h.script]

theorem templateGroup (name : String) (x : ClusterInput) (placement : Placement) :
    TemplateGroup.create name x p placement = TemplateGroup.create name x o placement := by
  simp only [TemplateGroup.create, TemplateGroup.templateDraft, TemplateGroup.scalingDraft,
    TemplateGroup.marketOptions, h.check, h.preparation, h.userData, h.workerTags, h.volume,
    h.publicAddress, h.type.value, h.spotPrice.isTruthy, h.spotPrice.value, h.healthyShare.resolve,
    h.tagSpecifications, h.firewall]

end TemplateOptions.Postpones

namespace ManagedOptions.Postpones

variable {o p : ManagedOptions} (h : o.Postpones p)

include h

theorem check (name : String) : p.check name = o.check name := by
  simp only [ManagedOptions.check, h.role, h.roleArn.isTruthy]

theorem managedRole (cluster : Deferred Cluster) :
    ManagedGroup.role p cluster = ManagedGroup.role o cluster := by
  simp only [ManagedGroup.role, ManagedGroup.askedRole, h.role, h.roleArn.isTruthy, h.roleArn.value]

theorem managedGroup (name : String) (x : ClusterInput) (placement : Placement) :
    ManagedGroup.create name x p placement = ManagedGroup.create name x o placement := by
  simp only [ManagedGroup.create, ManagedGroup.draft, h.check, h.managedRole, h.groupName.value,
    h.clusterName.isTruthy, h.clusterName.value, h.subnets.value?, h.scaling, h.instanceTypes,
    h.purchase, h.image, h.diskSize, h.releaseVersion.value, h.version.value, h.forceUpdate,
    h.labels, h.taints, h.launchTemplate, h.remoteAccess, h.updatePolicy, h.tags]

end ManagedOptions.Postpones

namespace GroupOptions

/-- Options of one kind, some of the second being those of the first put off. -/
inductive Postpones : GroupOptions → GroupOptions → Prop
  | stack {o p : WorkerOptions} : o.Postpones p → Postpones (.stack o) (.stack p)
  | template {o p : TemplateOptions} : o.Postpones p → Postpones (.template o) (.template p)
  | managed {o p : ManagedOptions} : o.Postpones p → Postpones (.managed o) (.managed p)

/-- Options that are checked alike, and from which a group is planned alike in either form: the same
events in the same order, and the same result or failure. -/
structure TreatedAlike (o p : GroupOptions) : Prop where
  check : ∀ name, GroupSpec.check ⟨name, p⟩ = GroupSpec.check ⟨name, o⟩
  plan : ∀ name x form, p.planAs name x form = o.planAs name x form

/-- Options some of which are put off are as good as the options themselves. -/
theorem treatedAlike_of_postpones {o p : GroupOptions} (h : o.Postpones p) : o.TreatedAlike p := by
  cases h with
  | stack h =>
      refine ⟨fun name => h.check _, fun name x form => ?_⟩
      cases form <;> simp only [planAs, StackGroup.component, h.check, h.stackGroup]
  | template h =>
      refine ⟨fun name => h.check _, fun name x form => ?_⟩
      cases form <;> simp only [planAs, TemplateGroup.component, h.check, h.templateGroup]
  | managed h =>
      refine ⟨fun name => h.check _, fun name x form => ?_⟩
      cases form <;> simp only [planAs, ManagedGroup.component, h.check, h.managedGroup]

end GroupOptions

/-- Options with a text, a list, a map, an empty map and a number, at hand. -/
def plainOptions : TemplateOptions :=
  let o := sizedOptions ⟨none, none, none⟩
  { o with
    placement := { o.placement with subnets := .now (some [.now "a", .now "b"]) }
    machine := { o.machine with spotPrice := .now (some "0.05") }
    groupTags := .now (some [("team", .now "blue")])
    stackTags := .now (some []) }

/-- The same options with all of these put off, the text twice, and an element of the list and a
value of the map as well. -/
def plainOptionsLater : TemplateOptions :=
  { plainOptions with
    placement := { plainOptions.placement with
      subnets := .later (ListInput.value (.now (some [.now "a", .later (pure (.text "b"))]))) }
    machine := { plainOptions.machine with
      spotPrice := .later (TextInput.value (.later (TextInput.value (.now (some "0.05"))))) }
    groupTags := .later (TagsInput.value (.now (some [("team", .later (pure (.text "blue")))])))
    stackTags := .later (TagsInput.value (.now (some [])))
    healthyShare := .later (pure (.int 50)) }

theorem plainOptions_postpones : plainOptions.Postpones plainOptionsLater where
  subnets := .later (.inside (.some (.cons (.same _) (.cons (.later (.same _) trivial) .nil)))) rfl
  publicAddress := rfl
  type := .same _
  spotPrice := .later (.later (.same _) rfl) rfl
  image := .same _
  family := rfl
  gpu := rfl
  version := .same _
  firewall := rfl
  publicKey := .same _
  keyName := .same _
  volume := rfl
  userScript := .same _
  override := .same _
  agent := rfl
  bootstrapArgs := rfl
  bounds := rfl
  profile := .same _
  groupTags := .later (.inside (.some (.cons ⟨rfl, .later (.same _) trivial⟩ .nil))) rfl
  stackTags := .later (.same _) rfl
  healthyShare := .later (.same _) trivial
  tagSpecifications := rfl

theorem treatedAlike_of_postpones_plainOptions :
    (GroupOptions.template plainOptions).TreatedAlike (.template plainOptionsLater) :=
  GroupOptions.treatedAlike_of_postpones (.template plainOptions_postpones)

end FleetPlan
