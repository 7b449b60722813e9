import FleetPlan.Fleet.ManagedGroup
import FleetPlan.Fleet.StackGroup
import FleetPlan.Fleet.TemplateGroup
import FleetPlan.Proofs.DeferredValues

/-!
Deferral in the description of a cluster plays no part in the plan of a group.

Postponing a setting, as a whole or in places, leaves the data that it amounts to and the resources
that this comes from; every reader of a description goes through its parts, so the three sorts of
groups are planned alike from descriptions whose parts amount to the same. Nothing is said about
values that postponing could not keep, such as resources among the parts.
-/
namespace FleetPlan

mutual

/-- The second setting is the first with any of what it holds put off, any number of times. What is
put off comes from no resources of its own. -/
inductive Setting.Postpones : Setting → Setting → Prop
  | same (v : Setting) : Postpones v v
  | later {v w : Setting} : Postpones v w → Postpones v w.postponed
  | list {vs ws : List Setting} : Setting.PostponesEach vs ws → Postpones (.list vs) (.list ws)
  | map {es fs : List (String × Setting)} : Setting.PostponesMembers es fs →
      Postpones (.map es) (.map fs)

/-- Lists of settings related one by one. -/
inductive Setting.PostponesEach : List Setting → List Setting → Prop
  | nil : PostponesEach [] []
  | cons {v w : Setting} {vs ws : List Setting} : Setting.Postpones v w → PostponesEach vs ws →
      PostponesEach (v :: vs) (w :: ws)

/-- Maps with the same keys whose values are related one by one. -/
inductive Setting.PostponesMembers :
    List (String × Setting) → List (String × Setting) → Prop
  | nil : PostponesMembers [] []
  | cons {k : String} {v w : Setting} {es fs : List (String × Setting)} :
      Setting.Postpones v w → PostponesMembers es fs → PostponesMembers ((k, v) :: es) ((k, w) :: fs)

end

namespace Setting

theorem deferred_postponed (v : Setting) : v.postponed.deferred = v.deferred := by
  simp only [postponed, deferred, Handle.deferred]

mutual

theorem deferred_of_postpones {v w : Setting} : Postpones v w → w.deferred = v.deferred
  | .same _ => rfl
  | .later h => (deferred_postponed _).trans (deferred_of_postpones h)
  | .list h => by simp only [deferred, deferredList_of_postpones h]
  | .map h => by simp only [deferred, deferredEntries_of_postpones h]

theorem deferredList_of_postpones {vs ws : List Setting} :
    PostponesEach vs ws → deferredList ws = deferredList vs
  | .nil => rfl
  | .cons h hs => by
      simp only [deferredList, deferred_of_postpones h, deferredList_of_postpones hs]

theorem deferredEntries_of_postpones {es fs : List (String × Setting)} :
    PostponesMembers es fs → deferredEntries fs = deferredEntries es
  | .nil => rfl
  | .cons h hs => by
      simp only [deferredEntries, deferred_of_postpones h, deferredEntries_of_postpones hs]

end

end Setting

/-- The second part is the first with any of what it holds put off; a list may become a sequence. -/
inductive Part.Postpones : Part → Part → Prop
  | given {v w : Setting} : Setting.Postpones v w → Postpones (.given v) (.given w)
  | listed {vs ws : List Setting} : Setting.PostponesEach vs ws →
      Postpones (.given (.list vs)) (.sequence ws)
  | sequence {vs ws : List Setting} : Setting.PostponesEach vs ws →
      Postpones (.sequence vs) (.sequence ws)

theorem Part.deferred_of_postpones {p q : Part} (h : Part.Postpones p q) :
    q.deferred = p.deferred := by
  cases h with
  | given h => exact Setting.deferred_of_postpones h
  | listed h | sequence h =>
      simp only [Part.deferred, Setting.deferred, Setting.deferredList_of_postpones h]

namespace Cluster

/-- The second description is the first with any of what its parts hold put off. -/
structure Postpones (c d : Cluster) : Prop where
  parts : ∀ e ∈ Cluster.parts, Part.Postpones (e.2 c) (e.2 d)
  networkPlugin : d.networkPlugin = c.networkPlugin
  nodeAccess : d.nodeAccess = c.nodeAccess

end Cluster

namespace ClusterInput

/-- A description with any number of deferrals around it, none of which comes from a resource. -/
inductive Defers (c : Cluster) : ClusterInput → Prop
  | now : Defers c (.descriptor c)
  | later {x : ClusterInput} : Defers c x → Defers c (.later [] x)

/-- What is accepted as a cluster and comes to a description: the description, an object that holds
it now or later, and anything that comes to one of these later. -/
inductive Offers : ClusterInput → Cluster → Prop
  | now {c : Cluster} : Offers (.descriptor c) c
  | held {kind : String} {x : ClusterInput} {c : Cluster} : Defers c x → Offers (.holder kind x) c
  | later {x : ClusterInput} {c : Cluster} : Offers x c → Offers (.later [] x) c

theorem settle_of_defers {c : Cluster} {x : ClusterInput} (h : Defers c x) :
    x.settle = pure (.descriptor c) := by
  induction h with
  | now => rfl
  | later _ ih => simp only [settle, ih]; rfl

theorem open?_of_defers {c : Cluster} {x : ClusterInput} (h : Defers c x) (kind : String) :
    (holder kind x).open? = pure (.descriptor c) := by
  cases h with
  | now => rfl
  | later h => exact settle_of_defers (.later h)

theorem resolve_of_offers {c : Cluster} {x : ClusterInput} (h : Offers x c) :
    x.resolve = pure (.descriptor c) := by
  induction h with
  | now => rfl
  | held h => exact open?_of_defers h _
  | @later x c _ ih =>
      have unwrap : (later [] x).settle = x.settle := by
        simp only [settle, List.nil_append]
      simpa only [resolve, unwrap] using ih

theorem cluster_of_offers {c : Cluster} {x : ClusterInput} (h : Offers x c) :
    x.cluster = pure c := by
  simp only [cluster, resolve_of_offers h]
  rfl

end ClusterInput

/-- Deferred descriptions that no reader can tell apart: each part amounts to the same, and so do the
resources to wait for. -/
structure Alike (d e : Deferred Cluster) : Prop where
  name : d.part Cluster.name = e.part Cluster.name
  endpoint : d.part Cluster.endpoint = e.part Cluster.endpoint
  authority : d.part Cluster.authority = e.part Cluster.authority
  version : d.part Cluster.version = e.part Cluster.version
  network : d.part Cluster.network = e.part Cluster.network
  controlGroup : d.part Cluster.controlGroup = e.part Cluster.controlGroup
  subnets : d.part Cluster.subnets = e.part Cluster.subnets
  privateSubnets : d.part Cluster.privateSubnets = e.part Cluster.privateSubnets
  publicSubnets : d.part Cluster.publicSubnets = e.part Cluster.publicSubnets
  profileArn : d.part Cluster.profileArn = e.part Cluster.profileArn
  roleArns : d.part Cluster.roleArns = e.part Cluster.roleArns
  nodeGroup : d.part Cluster.nodeGroup = e.part Cluster.nodeGroup
  nodeGroupTags : d.part Cluster.nodeGroupTags = e.part Cluster.nodeGroupTags
  tags : d.part Cluster.tags = e.part Cluster.tags
  fleet : (do (← d).fleetDependencies) = (do (← e).fleetDependencies)
  access : (do (← d).accessDependencies) = (do (← e).accessDependencies)

theorem part_of_postpones {c d : Cluster} (h : c.Postpones d) {get : Cluster → Part}
    (hget : get ∈ Cluster.parts.map (·.2)) :
    (pure d : Deferred Cluster).part get = (pure c : Deferred Cluster).part get := by
  obtain ⟨e, he, rfl⟩ := List.mem_map.mp hget
  simp only [Deferred.part, Deferred.pure_bind]
  exact Part.deferred_of_postpones (h.parts e he)

theorem alike_of_postpones {c d : Cluster} (h : c.Postpones d) : Alike (pure d) (pure c) := by
  constructor
  case fleet =>
    simp only [Deferred.pure_bind, Cluster.fleetDependencies, h.networkPlugin, h.nodeAccess]
  case access =>
    simp only [Deferred.pure_bind, Cluster.accessDependencies, h.nodeAccess]
  all_goals exact part_of_postpones h (by simp [Cluster.parts])

/-! Each reader of a description, from the parts upwards. -/

namespace Alike

variable {d e : Deferred Cluster} (h : Alike d e)

include h

theorem obtainPair (name : String) (f : Firewall) (placement : Placement) :
    GroupPair.obtain name f d placement = GroupPair.obtain name f e placement := by
  simp only [GroupPair.obtain, GroupPair.create, GroupPair.groupDraft, GroupPair.clusterTags,
    h.name, h.network, h.controlGroup, h.nodeGroupTags, h.tags]

theorem nodeGroupId (pair : GroupPair) (f : Firewall) :
    GroupPair.nodeGroupId pair f d = GroupPair.nodeGroupId pair f e := by
  simp only [GroupPair.nodeGroupId, h.nodeGroup, h.nodeGroupTags]

theorem workerSubnets (asked : Option (Deferred Json)) (placement : Placement) :
    workerSubnetIds asked d placement = workerSubnetIds asked e placement := by
  simp only [workerSubnetIds, h.subnets, h.privateSubnets, h.publicSubnets]

theorem managedSubnets (asked : Option (Deferred Json)) :
    managedSubnetIds asked d = managedSubnetIds asked e := by
  simp only [managedSubnetIds, h.subnets, h.privateSubnets, h.publicSubnets]

theorem preparation (name : String) (o : WorkerOptions) (placement : Placement) :
    Preparation.make name o d placement = Preparation.make name o e placement := by
  simp only [Preparation.make, Preparation.versionOf, Preparation.profileOf, h.obtainPair,
    h.nodeGroupId, h.workerSubnets, h.version, h.profileArn, h.fleet]

theorem script (p : Preparation) (o : WorkerOptions) (marker : String)
    (signal : Option (String × Deferred Json)) :
    p.script o d marker signal = p.script o e marker signal := by
  simp only [Preparation.script, h.name, h.endpoint, h.authority]

theorem workerTags (o : WorkerOptions) :
    Preparation.workerTags o d = Preparation.workerTags o e := by
  simp only [Preparation.workerTags, h.name]

theorem managedRole (o : ManagedOptions) : ManagedGroup.role o d = ManagedGroup.role o e := by
  simp only [ManagedGroup.role, h.roleArns]

theorem managedDraft (name : String) (o : ManagedOptions) (placement : Placement) :
    ManagedGroup.draft name o d placement = ManagedGroup.draft name o e placement := by
  simp only [ManagedGroup.draft, h.managedRole, h.managedSubnets, h.name, h.access]

end Alike

namespace ClusterInput

variable {x y : ClusterInput} (h : Alike x.cluster y.cluster)

include h

theorem stackGroup_of_alike (name : String) (o : WorkerOptions) (placement : Placement) :
    StackGroup.create name x o placement = StackGroup.create name y o placement := by
  simp only [StackGroup.create, StackGroup.userData, StackGroup.stackDraft,
    StackGroup.templateBody, h.preparation, h.script, h.workerTags, h.tags]

theorem templateGroup_of_alike (name : String) (o : TemplateOptions) (placement : Placement) :
    TemplateGroup.create name x o placement = TemplateGroup.create name y o placement := by
  simp only [TemplateGroup.create, TemplateGroup.userData, TemplateGroup.scalingDraft,
    h.preparation, h.script, h.workerTags]

theorem managedGroup_of_alike (name : String) (o : ManagedOptions) (placement : Placement) :
    ManagedGroup.create name x o placement = ManagedGroup.create name y o placement := by
  simp only [ManagedGroup.create, h.managedDraft]

end ClusterInput

/-- Two inputs from which the three sorts of groups, each by itself and as a component, are planned
alike: the same events in the same order, and the same result or failure. -/
structure ClusterInput.PlannedAlike (x y : ClusterInput) : Prop where
  stack : ∀ name o placement,
    StackGroup.create name x o placement = StackGroup.create name y o placement
  stackComponent : ∀ name o provider,
    StackGroup.component name x o provider = StackGroup.component name y o provider
  template : ∀ name o placement,
    TemplateGroup.create name x o placement = TemplateGroup.create name y o placement
  templateComponent : ∀ name o provider,
    TemplateGroup.component name x o provider = TemplateGroup.component name y o provider
  managed : ∀ name o placement,
    ManagedGroup.create name x o placement = ManagedGroup.create name y o placement
  managedComponent : ∀ name o provider,
    ManagedGroup.component name x o provider = ManagedGroup.component name y o provider

/-- Whatever offers a description with some of what it holds put off is as good as the description
itself. -/
theorem plannedAlike_of_postpones {c d : Cluster} (h : c.Postpones d) {x : ClusterInput}
    (hx : x.Offers d) : ClusterInput.PlannedAlike x (.descriptor c) := by
  have alike : Alike x.cluster (ClusterInput.descriptor c).cluster := by
    rw [ClusterInput.cluster_of_offers hx, ClusterInput.cluster_of_offers .now]
    exact alike_of_postpones h
  have stack := ClusterInput.stackGroup_of_alike alike
  have template := ClusterInput.templateGroup_of_alike alike
  have managed := ClusterInput.managedGroup_of_alike alike
  constructor
  · exact stack
  · intro name o provider
    simp only [StackGroup.component, stack]
  · exact template
  · intro name o provider
    simp only [TemplateGroup.component, template]
  · exact managed
  · intro name o provider
    simp only [ManagedGroup.component, managed]

/-- A cluster with a part of each form, at hand. -/
def smallCluster : Cluster where
  name := .given (.text "c")
  endpoint := .given (.text "https://c")
  authority := .given (.text "ca")
  version := .given (.text "1.30")
  network := .given (.text "vpc")
  controlGroup := .given (.text "sg-control")
  subnets := .given (.list [.text "a", .text "b"])
  privateSubnets := .given .null
  publicSubnets := .given .null
  profileArn := .given .null
  roleArns := .given (.list [.text "arn:nodes"])
  nodeGroup := .given (.text "sg-nodes")
  nodeGroupTags := .given (.map [("team", .text "blue")])
  tags := .given .null
  networkPlugin := pure none
  nodeAccess := pure none

/-- The same cluster with a text, a null, an element of a list and a value of a map put off, and a
list as a sequence. -/
def smallClusterLater : Cluster :=
  { smallCluster with
    name := .given (Setting.postponed (Setting.postponed (.text "c")))
    subnets := .sequence [.text "a", Setting.postponed (.text "b")]
    profileArn := .given (Setting.postponed .null)
    nodeGroupTags := .given (Setting.postponed (.map [("team", Setting.postponed (.text "blue"))])) }

theorem smallCluster_postpones : smallCluster.Postpones smallClusterLater := by
  refine ⟨?_, rfl, rfl⟩
  simp only [Cluster.parts, List.forall_mem_cons]
  refine ⟨.given (.later (.later (.same _))), .given (.same _), .given (.same _), .given (.same _),
    .given (.same _), .given (.same _), .listed (.cons (.same _) (.cons (.later (.same _)) .nil)),
    .given (.same _), .given (.same _), .given (.later (.same _)), .given (.same _),
    .given (.same _), .given (.later (.map (.cons (.later (.same _)) .nil))), .given (.same _), ?_⟩
  intro e he
  cases he

theorem plannedAlike_of_postpones_smallCluster :
    ClusterInput.PlannedAlike
      (.later [] (.holder "Cluster" (.later [] (.descriptor smallClusterLater))))
      (.descriptor smallCluster) :=
  plannedAlike_of_postpones smallCluster_postpones (.later (.held (.later .now)))

end FleetPlan
