import FleetPlan.Plan.Report
import FleetPlan.Proofs.FleetForms
import FleetPlan.Proofs.ManagedForms
import FleetPlan.Stack.GroupList

/-!
Which resources are tried when a group is planned, and in which order.

The resources of a group are named after it, each with an ending of its own, and the options alone say
which of them there are. A plan that fails has tried the first of them, and a plan that gives a result
has tried all of them, whether or not they could be registered.
-/
namespace FleetPlan

/-- The resources whose registration was tried, in order. -/
def History.tried (past : History) : List ResourceRef := past.attempts.map Attempt.ref

namespace History

theorem tried_append (past more : History) : (past ++ more).tried = past.tried ++ more.tried := by
  rw [tried, attempts_append, List.map_append]
  rfl

theorem tried_event (d : Draft) (past : History) : tried [d.event past] = [d.ref] := by
  rw [tried, Draft.attempts_event]
  rfl

theorem tried_eq_nil {past : History} (h : ∀ e ∈ past, e.attempt? = none) : past.tried = [] := by
  rw [tried, attempts, List.filterMap_eq_nil_iff.2 h]
  rfl

theorem registrations_sublist (past : History) :
    ((Report.ofEvents past).registrations.map Registration.ref).Sublist past.tried := by
  induction past with
  | nil => exact .refl _
  | cons e past ih =>
      cases e with
      | registered r => exact ih.cons_cons r.ref
      | refused ref _ _ _ => exact ih.cons ref
      | asked _ | published _ _ | unpublished _ _ => exact ih

theorem mem_registrations {past : History} {r : Registration}
    (h : r ∈ (Report.ofEvents past).registrations) : .registered r ∈ past := by
  obtain ⟨e, he, hr⟩ := List.mem_filterMap.1 h
  split at hr
  · cases hr
    exact he
  · cases hr

theorem mem_tried {past : History} {r : Registration} (h : .registered r ∈ past) :
    r.ref ∈ past.tried :=
  List.mem_map.2 ⟨_, List.mem_filterMap.2 ⟨_, h, rfl⟩, rfl⟩

end History

namespace Plan

variable {α β : Type} {refs refs' : List ResourceRef}

/-- A plan tries some resources in order: all of them if it gives a result, and otherwise the first
ones. -/
def Tries (refs : List ResourceRef) (x : Plan α) : Prop :=
  ∀ s, History.tried (x s).trace <+: refs ∧
    ∀ a, (x s).answer = .ok a → History.tried (x s).trace = refs

theorem tries_of_eq {x : Plan α} (h : ∀ s, History.tried (x s).trace = refs) : Tries refs x := by
  intro s
  rw [h s]
  exact ⟨List.prefix_rfl, fun _ _ => rfl⟩

theorem tries_pure (a : α) : Tries [] (Pure.pure a) := tries_of_eq fun _ => rfl

theorem tries_fail (e : Failure) : Tries refs (fail e : Plan α) := by
  intro s
  refine ⟨List.nil_prefix, fun a ha => ?_⟩
  cases ha

theorem tries_ofExcept (r : Except Failure α) : Tries [] (ofExcept r) := by
  cases r with
  | ok a => exact tries_pure a
  | error e => exact tries_fail e

theorem tries_site : Tries [] site := tries_of_eq fun _ => rfl

theorem tries_register (d : Draft) : Tries [d.ref] (register d) := by
  intro s
  by_cases named : d.Named
  · rw [register_of_named named, History.tried_event]
    exact ⟨List.prefix_rfl, fun _ _ => rfl⟩
  · obtain ⟨e, he⟩ := register_of_not_named named s
    rw [he]
    refine ⟨List.nil_prefix, fun a ha => ?_⟩
    cases ha

theorem Tries.bind {x : Plan α} {f : α → Plan β} (hx : Tries refs x) (hf : ∀ a, Tries refs' (f a)) :
    Tries (refs ++ refs') (x >>= f) := by
  intro s
  cases h : (x s).answer with
  | error e =>
      rw [bind_of_error h]
      refine ⟨(hx s).1.trans (List.prefix_append _ _), fun b hb => ?_⟩
      cases hb
  | ok a =>
      rw [bind_of_ok h]
      simp only [History.tried_append, (hx s).2 a h]
      obtain ⟨first, whole⟩ := hf a (s.after (x s).trace)
      exact ⟨(List.prefix_append_right_inj _).2 first, fun b hb => by rw [whole b hb]⟩

/-- What a plan tries is not changed by what it makes of the result. -/
theorem Tries.andThen {x : Plan α} {f : α → Plan β} (hx : Tries refs x)
    (hf : ∀ a, Tries [] (f a)) : Tries refs (x >>= f) := by
  rw [← List.append_nil refs]
  exact hx.bind hf

theorem tries_of_ensures {x : Plan α}
    (h : ∀ s, Ensures (fun e => e.attempt? = none) (fun _ => True) x s) : Tries [] x :=
  tries_of_eq fun s => History.tried_eq_nil (h s).1

theorem tries_publish (component : Resource) (outputs : Entries (Deferred Json)) :
    Tries [] (publish component outputs) := by
  refine tries_of_eq fun s => ?_
  rcases trace_publish component outputs s with ⟨v, ht⟩ | ⟨e, ht⟩ <;> rw [ht] <;> rfl

end Plan

/-- A resource of a group: its type, and what its name ends in behind the group's. -/
structure GroupPart where
  type : String
  ending : String
  deriving DecidableEq

def GroupPart.ref (name : String) (p : GroupPart) : ResourceRef := ⟨p.type, name ++ p.ending⟩

/-- A resource that goes by the name of its group alone. -/
theorem GroupPart.ref_bare (name type : String) : ref name ⟨type, ""⟩ = ⟨type, name⟩ := by
  rw [ref, String.append_empty]

namespace GroupPair

/-- A new security group, the four rules that are its own, and the one of the control plane's. -/
def parts : List GroupPart := [
  ⟨ResourceRef.securityGroupType, "-nodeSecurityGroup"⟩,
  ⟨ResourceRef.securityGroupRuleType, "-eksNodeIngressRule"⟩,
  ⟨ResourceRef.securityGroupRuleType, "-eksNodeClusterIngressRule"⟩,
  ⟨ResourceRef.securityGroupRuleType, "-eksExtApiServerClusterIngressRule"⟩,
  ⟨ResourceRef.securityGroupRuleType, "-eksNodeInternetEgressRule"⟩,
  ⟨ResourceRef.securityGroupRuleType, "-eksClusterIngressRule"⟩]

end GroupPair

/-- A pair is made anew unless a group is given. -/
def Firewall.parts (f : Firewall) : List GroupPart :=
  if f.group.isNone then GroupPair.parts else []

def Access.keyPair : GroupPart := ⟨"aws:ec2/keyPair:KeyPair", "-keyPair"⟩

/-- A key pair is made only of a public key. -/
def Access.parts (a : Access) : List GroupPart :=
  if a.publicKey.isTruthy then [Access.keyPair] else []

/-- What is made before the machines of a group of one's own are described. -/
def WorkerOptions.parts (o : WorkerOptions) : List GroupPart := o.firewall.parts ++ o.access.parts

namespace GroupOptions

/-- The component that a group may be planned as. -/
def self : GroupOptions → GroupPart
  | stack _ => ⟨StackGroup.componentType, ""⟩
  | template _ => ⟨TemplateGroup.componentType, ""⟩
  | managed _ => ⟨ManagedGroup.componentType, ""⟩

/-- All that is made for a group, in order. -/
def parts : GroupOptions → List GroupPart
  | stack o => o.parts ++ [
      ⟨"aws:ec2/launchConfiguration:LaunchConfiguration", "-nodeLaunchConfiguration"⟩,
      ⟨"aws:cloudformation/stack:Stack", "-nodes"⟩]
  | template o => o.toWorkerOptions.parts ++ [
      ⟨"aws:ec2/launchTemplate:LaunchTemplate", "-launchTemplate"⟩,
      ⟨"aws:autoscaling/group:Group", ""⟩]
  | managed _ => [⟨"aws:eks/nodeGroup:NodeGroup", ""⟩]

/-- The resources of a group that is planned as a component, itself first. -/
def refs (name : String) (o : GroupOptions) : List ResourceRef :=
  (o.self :: o.parts).map (GroupPart.ref name)

end GroupOptions

section Group

open Plan

variable (name : String) (x : ClusterInput) (cluster : Deferred Cluster) (placement : Placement)

theorem tries_registerAll (ds : List Draft) : Tries (ds.map Draft.ref) (GroupPair.registerAll ds) := by
  induction ds with
  | nil => exact tries_pure ()
  | cons d ds ih => exact (tries_register d).bind fun _ => ih

theorem tries_createPair :
    Tries (GroupPair.parts.map (GroupPart.ref name)) (GroupPair.create name cluster placement) :=
  (tries_register _).bind fun _ => (tries_registerAll _).bind fun _ =>
    (tries_register _).andThen fun _ => tries_pure _

theorem tries_obtainPair (f : Firewall) :
    Tries (f.parts.map (GroupPart.ref name)) (GroupPair.obtain name f cluster placement) := by
  unfold GroupPair.obtain
  split
  case h_1 h =>
    rw [Firewall.parts, h]
    exact tries_createPair name cluster placement
  case h_2 h _ =>
    rw [Firewall.parts, h]
    exact tries_pure _
  case h_3 => exact tries_fail _

theorem tries_keyOf (access : Access) :
    Tries (access.parts.map (GroupPart.ref name)) (Preparation.keyOf name access placement) := by
  unfold Preparation.keyOf Access.parts
  split
  · exact (tries_register _).andThen fun _ => tries_pure _
  · exact tries_pure _

theorem tries_make (o : WorkerOptions) :
    Tries (o.parts.map (GroupPart.ref name)) (Preparation.make name o cluster placement) := by
  have silent (q : Question) : (Event.asked (callOf placement q)).attempt? = none := rfl
  rw [WorkerOptions.parts, List.map_append]
  refine (tries_obtainPair name cluster placement o.firewall).bind fun _ => ?_
  refine (tries_keyOf name placement o.access).andThen fun _ => ?_
  refine (tries_of_ensures fun _ => ensures_imageId silent _ _).andThen fun _ => ?_
  refine (tries_of_ensures fun _ => ensures_workerSubnetIds silent _ _).andThen fun _ => ?_
  exact tries_pure _

theorem tries_createStack (o : WorkerOptions) :
    Tries ((GroupOptions.stack o).parts.map (GroupPart.ref name))
      (StackGroup.create name x o placement) := by
  rw [GroupOptions.parts, List.map_append]
  refine (tries_ofExcept _).bind fun _ => ?_
  refine (tries_make name x.cluster placement o).bind fun p => ?_
  refine tries_site.bind fun s => ?_
  refine (tries_of_ensures fun _ => ensures_userData (fun _ => rfl) p o _ _).bind fun _ => ?_
  refine (tries_ofExcept _).bind fun _ => ?_
  refine (tries_register _).bind fun _ => ?_
  exact (tries_register _).andThen fun _ => tries_pure _

theorem tries_createTemplate (o : TemplateOptions) :
    Tries ((GroupOptions.template o).parts.map (GroupPart.ref name))
      (TemplateGroup.create name x o placement) := by
  rw [GroupOptions.parts, List.map_append]
  refine (tries_ofExcept _).bind fun _ => ?_
  refine (tries_make name x.cluster placement o.toWorkerOptions).bind fun p => ?_
  refine (tries_of_ensures fun _ => ensures_rootDevice (fun _ => rfl) p.imageId).bind fun _ => ?_
  refine (tries_ofExcept _).bind fun _ => ?_
  simp only [List.map_cons, List.map_nil, GroupPart.ref_bare]
  refine (tries_register _).bind fun _ => ?_
  exact (tries_register _).andThen fun _ => tries_pure _

theorem tries_createManaged (o : ManagedOptions) :
    Tries ((GroupOptions.managed o).parts.map (GroupPart.ref name))
      (ManagedGroup.create name x o placement) := by
  simp only [GroupOptions.parts, List.map_cons, List.map_nil, GroupPart.ref_bare]
  exact (tries_ofExcept _).bind fun _ => tries_register _

end Group

theorem Plan.tries_componentPlan {α : Type} {check : Except Failure Unit} {type name : String}
    {create : Resource → Plan α} {outputs : α → Entries (Deferred Json)} {refs : List ResourceRef}
    (h : ∀ r, Tries refs (create r)) :
    Tries (⟨type, name⟩ :: refs) (componentPlan check (groupSelf type name) create outputs) :=
  (tries_ofExcept check).bind fun _ => (tries_register (groupSelf type name)).bind fun r =>
    (h r).andThen fun a => (tries_publish r (outputs a)).andThen fun _ => tries_pure _

end FleetPlan
