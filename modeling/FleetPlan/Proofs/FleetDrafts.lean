import FleetPlan.Fleet.StackGroup
import FleetPlan.Fleet.TemplateGroup
import FleetPlan.Proofs.Settling
import FleetPlan.Proofs.SubnetLookups

/-!
The two sorts of groups of one's own as one: two drafts that are registered one after the other.

Whatever a group needs is settled first; then the description of its machines is registered, and
behind it what scales them. All that is registered before are security groups, their rules and key
pairs. Both checks are part of what the machines are described with, and what scales them refers to
that description.
-/
namespace FleetPlan

/-- A group of one's own, of one of the two sorts, by its options. -/
inductive Fleet where
  | stack (o : WorkerOptions)
  | template (o : TemplateOptions)

/-- What is about to be registered for a group: the description of its machines and, once that is
registered, what scales them. -/
structure FleetDrafts where
  pair : GroupPair
  machine : Draft
  scaler : Resource → Draft

namespace Fleet

def options : Fleet → WorkerOptions
  | stack o => o
  | template o => o.toWorkerOptions

/-- The resource that describes the machines. -/
def machineRef (name : String) : Fleet → ResourceRef
  | stack _ =>
    ⟨"aws:ec2/launchConfiguration:LaunchConfiguration", name ++ "-nodeLaunchConfiguration"⟩
  | template _ => ⟨"aws:ec2/launchTemplate:LaunchTemplate", name ++ "-launchTemplate"⟩

/-- The resource that scales the group. -/
def scalerRef (name : String) : Fleet → ResourceRef
  | stack _ => ⟨"aws:cloudformation/stack:Stack", name ++ "-nodes"⟩
  | template _ => ⟨"aws:autoscaling/group:Group", name⟩

/-- What happens when a group is planned at a placement. -/
def run (name : String) (x : ClusterInput) (placement : Placement) (s : Site) : Fleet → History
  | stack o => (StackGroup.create name x o placement s).trace
  | template o => (TemplateGroup.create name x o placement s).trace

/-- What happens when a group is planned as a component. -/
def componentRun (name : String) (x : ClusterInput) (provider : Option Resource) (s : Site) :
    Fleet → History
  | stack o => (StackGroup.component name x o provider s).trace
  | template o => (TemplateGroup.component name x o provider s).trace

/-- All that is planned before the description of the machines is registered. -/
def drafts (name : String) (cluster : Deferred Cluster) (placement : Placement) :
    Fleet → Plan FleetDrafts
  | stack o => do
    let p ← Preparation.make name o cluster placement
    let site ← Plan.site
    let stack := stackName site.project site.stack name
    let userData ← StackGroup.userData p o cluster placement stack
    let rootDevice ← Plan.ofExcept (StackGroup.rootDeviceProperty o.volume)
    return ⟨p.pair, StackGroup.configurationDraft name o p placement rootDevice userData,
      StackGroup.stackDraft name stack o p cluster placement⟩
  | template o => do
    let p ← Preparation.make name o.toWorkerOptions cluster placement
    let device ← rootDevice p.imageId placement
    let device ← Plan.ofExcept (TemplateGroup.blockDevice o.volume device)
    return ⟨p.pair, TemplateGroup.templateDraft name o p placement device
      (TemplateGroup.userData name p o cluster), TemplateGroup.scalingDraft name o p cluster placement⟩

/-- Registers the description of the machines, and what scales them behind it. -/
def registerBoth (d : FleetDrafts) : Plan (GroupPair × Resource × Resource) := do
  let machine ← Plan.register d.machine
  let scaler ← Plan.register (d.scaler machine)
  return (d.pair, machine, scaler)

/-- A group is planned by registering both of its drafts. -/
def plan (name : String) (x : ClusterInput) (placement : Placement) (f : Fleet) :
    Plan (GroupPair × Resource × Resource) := do
  Plan.ofExcept (f.options.check name)
  let d ← f.drafts name x.cluster placement
  registerBoth d

/-- What happens is what happens in the registration of the drafts. -/
theorem run_eq (name : String) (x : ClusterInput) (placement : Placement) (s : Site) (f : Fleet) :
    f.run name x placement s = (f.plan name x placement s).trace := by
  cases f with
  | stack o =>
      have same : (StackGroup.create name x o placement >>= fun _ => Pure.pure ()) =
          ((stack o).plan name x placement >>= fun _ => Pure.pure ()) := by
        simp only [StackGroup.create, plan, drafts, registerBoth, options, bind_assoc, pure_bind]
      rw [run, ← Plan.trace_bind_pure _ (fun _ => ()), same, Plan.trace_bind_pure]
  | template o =>
      have same : (TemplateGroup.create name x o placement >>= fun _ => Pure.pure ()) =
          ((template o).plan name x placement >>= fun _ => Pure.pure ()) := by
        simp only [TemplateGroup.create, plan, drafts, registerBoth, options, bind_assoc, pure_bind]
      rw [run, ← Plan.trace_bind_pure _ (fun _ => ()), same, Plan.trace_bind_pure]

end Fleet

/-! What is settled before. -/

/-- The types of what is registered before the machines are described. -/
def supportTypes : List String :=
  [ResourceRef.securityGroupType, ResourceRef.securityGroupRuleType, "aws:ec2/keyPair:KeyPair"]

/-- If an event tries a resource, then a security group, a rule of one, or a key pair. -/
def Event.IsSupport (e : Event) : Prop :=
  ∀ a, e.attempt? = some a → a.ref.type ∈ supportTypes ∧ a.isComponent = false

theorem Event.isSupport_asked (c : Call) : (Event.asked c).IsSupport := by
  intro a ha
  cases ha

theorem Draft.isSupport_event {d : Draft} (h : d.type ∈ supportTypes) (hc : d.isComponent = false)
    (past : History) : (d.event past).IsSupport := by
  intro a ha
  rw [attempt?_event] at ha
  cases ha
  exact ⟨h, hc⟩

namespace Firewall

/-- The security group of a group's nodes: the user's own, or a new one. -/
def groupRef (f : Firewall) (name : String) : ResourceRef :=
  match f.group with
  | some g => g.ref
  | none => ⟨ResourceRef.securityGroupType, name ++ "-nodeSecurityGroup"⟩

/-- The rule that lets the nodes reach the control plane. -/
def ruleRef (f : Firewall) (name : String) : ResourceRef :=
  match f.group, f.ingressRule with
  | some _, some r => r.ref
  | _, _ => ⟨ResourceRef.securityGroupRuleType, name ++ "-eksClusterIngressRule"⟩

end Firewall

/-- A pair is the user's own, or the new one that stands in its place. -/
structure GroupPair.Serves (pair : GroupPair) (name : String) (f : Firewall) : Prop where
  group : pair.group.ref = f.groupRef name
  rule : pair.rule.ref = f.ruleRef name
  own : ∀ g, f.group = some g → pair.group = g

namespace Preparation

/-- The security groups of the nodes: the pair's, which is checked, and the extra ones. -/
def groupIdsOf (pair : GroupPair) (o : WorkerOptions) (cluster : Deferred Cluster) :
    Deferred Json := do
  return .list (← Deferred.all
    (GroupPair.nodeGroupId pair o.firewall cluster :: o.firewall.extraGroups.map Resource.id))

/-- What a preparation says of the pair, of both checks, and of what is to be waited for. -/
structure Serves (p : Preparation) (name : String) (o : WorkerOptions)
    (cluster : Deferred Cluster) : Prop where
  pair : p.pair.Serves name o.firewall
  groupIds : p.groupIds = groupIdsOf p.pair o cluster
  profileArn : p.profileArn = profileOf o cluster
  range : p.capacity.range = o.bounds.fill .small
  dependencies : p.dependencies = do (← cluster).fleetDependencies

end Preparation

section Support

open Plan

variable {A : Event → Prop} {s : Site}

theorem ensures_registerAll {ds : List Draft} (h : ∀ d ∈ ds, ∀ past, A (d.event past)) :
    Ensures A (fun _ => True) (GroupPair.registerAll ds) s := by
  induction ds generalizing s with
  | nil => exact ensures_pure trivial
  | cons d ds ih =>
      refine (ensures_register (P := fun _ => True) fun _ => ⟨h d (.head _) _, trivial⟩).bind ?_
      exact fun _ _ _ _ => ih fun d' hd' => h d' (.tail _ hd')

section Registered

/-! Security groups, their rules and key pairs are registered, and nothing else happens. -/

variable {placement : Placement}
  (h : ∀ d past, d.type ∈ supportTypes → d.isComponent = false → d.placement = placement →
    A (Draft.event d past))

include h

theorem ensures_obtainPair (name : String) (f : Firewall) (cluster : Deferred Cluster) :
    Ensures A (fun pair => pair.Serves name f) (GroupPair.obtain name f cluster placement) s := by
  unfold GroupPair.obtain
  split
  case h_1 hg =>
    have isGroup : ResourceRef.securityGroupType ∈ supportTypes := .head _
    have isRule : ResourceRef.securityGroupRuleType ∈ supportTypes := .tail _ (.head _)
    refine (ensures_register (P := fun g => g.ref = f.groupRef name) fun _ => ⟨?_, ?_⟩).bind
      fun group _ _ hgroup => ?_
    · exact h _ _ isGroup rfl rfl
    · simp only [Firewall.groupRef, hg]
      rfl
    refine (ensures_registerAll fun d hd past => ?_).bind fun _ _ _ _ => ?_
    · obtain ⟨r, _, rfl⟩ := List.mem_map.mp hd
      exact h _ _ isRule rfl rfl
    refine (ensures_register (P := fun r => r.ref = f.ruleRef name) fun _ => ⟨?_, ?_⟩).bind
      fun rule _ _ hrule => ?_
    · exact h _ _ isRule rfl rfl
    · simp only [Firewall.ruleRef, hg]
      rfl
    refine ensures_pure ⟨hgroup, hrule, fun g h => ?_⟩
    rw [hg] at h
    cases h
  case h_2 group rule hg hr =>
    refine ensures_pure ⟨?_, ?_, fun g h => ?_⟩
    · simp only [Firewall.groupRef, hg]
    · simp only [Firewall.ruleRef, hg, hr]
    · rw [hg] at h
      exact Option.some.inj h
  case h_3 => exact ensures_fail _

theorem ensures_keyOf (name : String) (access : Access) :
    Ensures A (fun _ => True) (Preparation.keyOf name access placement) s := by
  unfold Preparation.keyOf
  split
  · refine (ensures_register (P := fun _ => True) fun _ => ⟨?_, trivial⟩).bind
      fun _ _ _ _ => ensures_pure trivial
    exact h _ _ (.tail _ (.tail _ (.head _))) rfl rfl
  · exact ensures_pure trivial

end Registered

section Asked

/-! Questions are asked, and nothing else happens. -/

variable {placement : Placement} (h : ∀ q, A (.asked (callOf placement q)))

include h

theorem ensures_imageId (m : Machine) (version : Deferred Json) :
    Ensures A (fun _ => True) (m.imageId version placement) s := by
  unfold Machine.imageId
  split
  · exact ensures_pure trivial
  · refine ensures_whenKnown fun v => ?_
    exact (ensures_askText h _ _).bind fun _ _ _ _ => ensures_pure trivial

theorem ensures_workerSubnetIds (asked : Option (Deferred Json)) (cluster : Deferred Cluster) :
    Ensures A (fun _ => True) (workerSubnetIds asked cluster placement) s := by
  unfold workerSubnetIds
  split
  · exact ensures_pure trivial
  · refine ensures_whenKnown fun ⟨inside, outside, every⟩ => ?_
    refine Ensures.bind (P := fun _ => True) ?_ fun _ _ _ _ => ensures_pure trivial
    rw [firstSet_pure]
    split
    · exact ensures_pure trivial
    rw [firstSet_pure]
    split
    · exact ensures_pure trivial
    refine Ensures.bind (P := fun _ => True) ?_ fun o _ _ _ => ?_
    · refine Ensures.bind (P := fun _ => True) ?_ fun _ _ _ _ => ensures_pure trivial
      unfold chooseAmong
      split
      · split
        · exact (ensures_chooseSubnets h _).bind fun _ _ _ _ => ensures_pure trivial
        · exact ensures_fail _
      · exact ensures_pure trivial
    · cases o with
      | some v => exact ensures_pure trivial
      | none => exact ensures_pure trivial

theorem ensures_userData (p : Preparation) (o : WorkerOptions) (cluster : Deferred Cluster)
    (stack : String) :
    Ensures A (fun _ => True) (StackGroup.userData p o cluster placement stack) s := by
  unfold StackGroup.userData
  split
  · exact ensures_pure trivial
  · refine Ensures.bind (P := fun _ => True) ?_ fun _ _ _ _ => ensures_pure trivial
    exact ensures_deferred (ensures_askText h _ _)

theorem ensures_rootDevice (image : Deferred Json) :
    Ensures A (fun _ => True) (rootDevice image placement) s := by
  refine ensures_whenKnown fun id => ?_
  refine (ensures_ask h _ _).bind fun devices _ _ _ => ?_
  cases devices with
  | nil => exact ensures_fail _
  | cons device _ => exact ensures_pure trivial

end Asked

variable {placement : Placement}
  (registered : ∀ d past, d.type ∈ supportTypes → d.isComponent = false →
    d.placement = placement → A (Draft.event d past))
  (asked : ∀ q, A (.asked (callOf placement q)))

include registered asked in
/-- Security groups, their rules and key pairs are registered, and questions are asked. -/
theorem ensures_make (name : String) (o : WorkerOptions) (cluster : Deferred Cluster) :
    Ensures A (fun p => p.Serves name o cluster) (Preparation.make name o cluster placement) s := by
  refine (ensures_obtainPair registered name o.firewall cluster).bind fun pair _ _ hpair => ?_
  refine (ensures_keyOf registered name o.access).bind fun _ _ _ _ => ?_
  refine (ensures_imageId asked o.machine _).bind fun _ _ _ _ => ?_
  refine (ensures_workerSubnetIds asked _ cluster).bind fun _ _ _ _ => ?_
  exact ensures_pure ⟨hpair, rfl, rfl, rfl, rfl⟩

/-- What is prepared serves the group, whatever happens meanwhile. -/
theorem ensures_serves (name : String) (o : WorkerOptions) (cluster : Deferred Cluster) :
    Ensures (fun _ => True) (fun p => p.Serves name o cluster)
      (Preparation.make name o cluster placement) s :=
  ensures_make (fun _ _ _ _ _ => trivial) (fun _ => trivial) name o cluster

end Support

/-- What the drafts of a group say of the pair, of both checks, of each other and of what is to be
waited for. -/
structure FleetDrafts.Serves (d : FleetDrafts) (name : String) (f : Fleet)
    (cluster : Deferred Cluster) : Prop where
  pair : d.pair.Serves name f.options.firewall
  machineRef : d.machine.ref = f.machineRef name
  scalerRef : ∀ m, (d.scaler m).ref = f.scalerRef name
  machineCustom : d.machine.isComponent = false
  scalerCustom : ∀ m, (d.scaler m).isComponent = false
  profile : ∃ p ∈ d.machine.properties,
    p.2.StartsWith (Preparation.profileOf f.options cluster)
  groups : ∃ p ∈ d.machine.properties,
    p.2.StartsWith (Preparation.groupIdsOf d.pair f.options cluster) ∧ p.2.NeverNull
  machine : ∀ m, ∃ key, ∃ p ∈ (d.scaler m).properties,
    p.2.StartsWith (Resource.output m key) ∧ p.2.NeverNull
  after : ∀ m, (d.scaler m).after = do (← cluster).fleetDependencies

section Serves

open Plan Deferred

variable {name : String} {cluster : Deferred Cluster} {placement : Placement} {s : Site}

theorem neverNull_groupIdsOf (pair : GroupPair) (o : WorkerOptions) (cluster : Deferred Cluster) :
    (Preparation.groupIdsOf pair o cluster).NeverNull :=
  neverNull_bind fun _ => neverNull_pure rfl

theorem serves_stackDrafts {o : WorkerOptions} {p : Preparation} (h : p.Serves name o cluster)
    (stack : String) (rootDevice : Json) (userData : Deferred Json) :
    (FleetDrafts.mk p.pair (StackGroup.configurationDraft name o p placement rootDevice userData)
      (StackGroup.stackDraft name stack o p cluster placement)).Serves name (.stack o) cluster := by
  refine ⟨h.pair, rfl, fun _ => rfl, rfl, fun _ => rfl, ?_, ?_, fun m => ?_, fun _ => h.dependencies⟩
  · refine ⟨("iamInstanceProfile", p.profileArn), by simp [StackGroup.configurationDraft], ?_⟩
    rw [h.profileArn]
    exact startsWith_refl _
  · refine ⟨("securityGroups", p.groupIds), by simp [StackGroup.configurationDraft], ?_⟩
    rw [h.groupIds]
    exact ⟨startsWith_refl _, neverNull_groupIdsOf _ _ _⟩
  · refine ⟨"name", ("templateBody", StackGroup.templateBody o p cluster m),
      by simp [StackGroup.stackDraft], startsWith_bind _ _, ?_⟩
    exact neverNull_bind fun _ => neverNull_bind fun _ => neverNull_bind fun _ =>
      neverNull_bind fun _ => neverNull_pure rfl

theorem serves_templateDrafts {o : TemplateOptions} {p : Preparation}
    (h : p.Serves name o.toWorkerOptions cluster) (device userData : Deferred Json) :
    (FleetDrafts.mk p.pair (TemplateGroup.templateDraft name o p placement device userData)
      (TemplateGroup.scalingDraft name o p cluster placement)).Serves name (.template o) cluster := by
  refine ⟨h.pair, rfl, fun _ => rfl, rfl, fun _ => rfl, ?_, ?_, fun m => ?_, fun _ => h.dependencies⟩
  · refine ⟨("iamInstanceProfile", do return .map [("arn", ← p.profileArn)]),
      by simp [TemplateGroup.templateDraft], ?_⟩
    rw [h.profileArn]
    exact startsWith_bind _ _
  · refine ⟨("networkInterfaces", do
      let groups ← p.groupIds
      return .list [.map [
        ("associatePublicIpAddress", TemplateGroup.flagText o.placement.publicAddress),
        ("securityGroups", groups)]]), by simp [TemplateGroup.templateDraft], ?_⟩
    rw [h.groupIds]
    exact ⟨startsWith_bind _ _, neverNull_bind fun _ => neverNull_pure rfl⟩
  · refine ⟨"name", ("launchTemplate", do
      let templateName ← m.output "name"
      let version ← m.output "latestVersion"
      return .map [("name", templateName), ("version", .text version.display)]),
      by simp [TemplateGroup.scalingDraft], startsWith_bind _ _, ?_⟩
    exact neverNull_bind fun _ => neverNull_bind fun _ => neverNull_pure rfl

/-- Drafts that are all placed alike. -/
structure FleetDrafts.ArePlaced (d : FleetDrafts) (placement : Placement) : Prop where
  machine : d.machine.placement = placement
  scaler : ∀ m, (d.scaler m).placement = placement

theorem ensures_draftsOf {A : Event → Prop}
    (registered : ∀ d past, d.type ∈ supportTypes → d.isComponent = false →
      d.placement = placement → A (Draft.event d past))
    (asked : ∀ q, A (.asked (callOf placement q))) (f : Fleet) :
    Ensures A (fun d => d.Serves name f cluster ∧ d.ArePlaced placement)
      (f.drafts name cluster placement) s := by
  cases f with
  | stack o =>
      refine (ensures_make registered asked name o cluster).bind fun p _ _ hp => ?_
      refine ensures_site.bind fun site _ _ _ => ?_
      refine (ensures_userData asked p o cluster _).bind fun userData _ _ _ => ?_
      refine Ensures.bind (P := fun _ => True) (ensures_ofExcept fun _ _ => trivial)
        fun device _ _ _ => ?_
      exact ensures_pure ⟨serves_stackDrafts hp _ device userData, rfl, fun _ => rfl⟩
  | template o =>
      refine (ensures_make registered asked name o.toWorkerOptions cluster).bind fun p _ _ hp => ?_
      refine (ensures_rootDevice asked p.imageId).bind fun image _ _ _ => ?_
      refine Ensures.bind (P := fun _ => True) (ensures_ofExcept fun _ _ => trivial)
        fun device _ _ _ => ?_
      exact ensures_pure ⟨serves_templateDrafts hp device _, rfl, fun _ => rfl⟩

theorem ensures_drafts (f : Fleet) :
    Ensures Event.IsSupport (fun d => d.Serves name f cluster)
      (f.drafts name cluster placement) s :=
  (ensures_draftsOf (fun _ past ht hc _ => Draft.isSupport_event ht hc past)
    (fun _ => Event.isSupport_asked _) f).imp fun _ h => h.1

end Serves
end FleetPlan
