import FleetPlan.Proofs.AskedQuestions
import FleetPlan.Proofs.FleetAgreement

/-!
What a group comes to when nothing fails: the resources that are registered and the questions that are
asked.

Groups of all kinds are planned in one form or the other, and the component is all that the forms
differ in. The options alone say what is registered; a group that needs no answers asks nothing, and a
pair of a security group and its rule that is given is never made again.
-/
namespace FleetPlan

open Plan Deferred

/-! Groups in either form. -/

/-- Nothing is asked for the component that a group may be planned as. -/
theorem calls_componentPlan {α : Type} {check : Except Failure Unit} {type name : String}
    {create : Resource → Plan α} {outputs : α → Entries (Deferred Json)} {s : Site}
    (hcheck : check = .ok ()) (hname : name ≠ "") :
    History.calls (componentPlan check (groupSelf type name) create outputs s).trace =
      History.calls (create ((groupSelf type name).resource s)
        (s.after [(groupSelf type name).event s.past])).trace := by
  obtain ⟨rest, hrest, ht⟩ := trace_componentPlan type create outputs s hcheck hname
  have first : History.calls [(groupSelf type name).event s.past] = [] :=
    History.calls_eq_nil (List.forall_mem_singleton.2 (Draft.event_ne_asked _ _))
  rw [ht, List.cons_append, ← List.singleton_append, History.calls_append, first,
    History.calls_append, History.calls_eq_nil fun e he => (hrest e he).2]
  exact List.append_nil _

namespace Fleet

variable {name : String} {x : ClusterInput} {s : Site} {f : Fleet} {form : GroupForm}

theorem ensures_registerBoth {A : Event → Prop} (h : ∀ (d : Draft) past, A (d.event past))
    (d : FleetDrafts) : Ensures A (fun _ => True) (registerBoth d) s :=
  (ensures_register (P := fun _ => True) fun _ => ⟨h _ _, trivial⟩).bind fun _ _ _ _ =>
    (ensures_register (P := fun _ => True) fun _ => ⟨h _ _, trivial⟩).bind fun _ _ _ _ =>
      ensures_pure trivial

/-- All is asked before the drafts of a group are registered. -/
theorem calls_run {placement : Placement} (hchecked : f.options.check name = .ok ()) :
    History.calls (f.run name x placement s) =
      History.calls (f.drafts name x.cluster placement s).trace := by
  rw [run_eq, plan, hchecked, ofExcept_ok, Plan.pure_bind]
  cases h : (f.drafts name x.cluster placement s).answer with
  | error e => rw [bind_of_error h]
  | ok d =>
      rw [bind_of_ok h, History.calls_append,
        History.calls_eq_nil (ensures_registerBoth Draft.event_ne_asked d).1, List.append_nil]

theorem calls_history (hchecked : f.options.check name = .ok ()) (hname : name ≠ "") :
    History.calls (f.history name x s form) =
      History.calls (f.run name x (form.placement (f.self name) s) (form.site (f.self name) s)) := by
  cases form with
  | placed placement => rfl
  | component provider =>
      cases f with
      | stack o => exact calls_componentPlan hchecked hname
      | template o => exact calls_componentPlan hchecked hname

/-- A group of one's own that is complete has asked as its options say. -/
theorem Completes.asks {m r : Registration} (h : f.Completes name x s form m r) :
    ∃ qs, f.group.Asks s.cloud x.cluster qs ∧
      History.calls (f.history name x s form) =
        qs.map (callOf (form.placement (f.self name) s)) := by
  obtain ⟨d, here, at_, machine, scaler, checked, _⟩ := h.exists_plan
  have calls : History.calls (f.history name x s form) = History.calls
      (f.run name x (form.placement (f.self name) s) (form.site (f.self name) s)) := by
    cases form with
    | placed placement => rfl
    | component provider =>
        refine calls_history checked fun unnamed => ?_
        have nothing := h.scaler
        rw [history, componentRun_nil fun h => h.2 unnamed] at nothing
        cases nothing
  obtain ⟨qs, asks, asked⟩ := yields_drafts f d at_.drafted
    (fun _ hp => Draft.outcome_of_settle machine hp) (d.machine.resource here)
    (fun _ hp => Draft.outcome_of_settle scaler hp)
  rw [cloud_site] at asks
  exact ⟨qs, asks, by rw [calls, calls_run checked, asked]⟩

end Fleet

/-- A group planned in one form or the other. A group of one's own gives back the security group of
its nodes. -/
def GroupOptions.planAs (name : String) (x : ClusterInput) :
    GroupOptions → GroupForm → Plan (Option Resource)
  | stack o, .placed placement => do
    return some (← StackGroup.create name x o placement).group
  | stack o, .component provider => do
    return some (← StackGroup.component name x o provider).2.group
  | template o, .placed placement => do
    return some (← TemplateGroup.create name x o placement).group
  | template o, .component provider => do
    return some (← TemplateGroup.component name x o provider).2.group
  | managed o, .placed placement => do
    let _ ← ManagedGroup.create name x o placement
    return none
  | managed o, .component provider => do
    let _ ← ManagedGroup.component name x o provider
    return none

/-- All that is made for a group, after the component that it may be planned as. -/
def GroupForm.parts (o : GroupOptions) : GroupForm → List GroupPart
  | placed _ => o.parts
  | component _ => o.self :: o.parts

/-- The security groups of a group of one's own. -/
def GroupOptions.firewall? : GroupOptions → Option Firewall
  | stack o => some o.firewall
  | template o => some o.firewall
  | managed _ => none

section Forms

variable {name : String} {x : ClusterInput} {s : Site} {o : GroupOptions} {form : GroupForm}

theorem tries_planAs (name : String) (x : ClusterInput) (o : GroupOptions) (form : GroupForm) :
    Tries ((form.parts o).map (GroupPart.ref name)) (o.planAs name x form) := by
  cases form with
  | placed placement =>
      cases o with
      | stack o => exact (tries_createStack name x placement o).andThen fun _ => tries_pure _
      | template o => exact (tries_createTemplate name x placement o).andThen fun _ => tries_pure _
      | managed o => exact (tries_createManaged name x placement o).andThen fun _ => tries_pure _
  | component provider =>
      rw [GroupForm.parts, List.map_cons]
      cases o with
      | stack o =>
          rw [GroupOptions.self, GroupPart.ref_bare]
          exact (tries_componentPlan fun r => tries_createStack name x _ o).andThen fun _ =>
            tries_pure _
      | template o =>
          rw [GroupOptions.self, GroupPart.ref_bare]
          exact (tries_componentPlan fun r => tries_createTemplate name x _ o).andThen fun _ =>
            tries_pure _
      | managed o =>
          rw [GroupOptions.self, GroupPart.ref_bare]
          exact (tries_componentPlan fun r => tries_createManaged name x _ o).andThen fun _ =>
            tries_pure _

theorem trace_planAs (f : Fleet) (name : String) (x : ClusterInput) (form : GroupForm) (s : Site) :
    (f.group.planAs name x form s).trace = f.history name x s form := by
  cases f <;> cases form <;> exact trace_bind_pure _ _ s

theorem completes_of_unfailed {f : Fleet} {group : Option Resource}
    (hplanned : (f.group.planAs name x form s).answer = .ok group)
    (hunfailed : History.Unfailed (f.group.planAs name x form s).trace) :
    ∃ m r, f.Completes name x s form m r := by
  have registered : ∀ p ∈ form.parts f.group,
      ∃ r, .registered r ∈ f.history name x s form ∧ r.ref = p.ref name := by
    intro p hp
    have all := (tries_planAs name x f.group form s).2 group hplanned
    rw [← History.registrations_of_unfailed hunfailed, trace_planAs] at all
    obtain ⟨r, hr, href⟩ := List.mem_map.1 (all ▸ List.mem_map_of_mem hp)
    exact ⟨r, History.mem_registrations hr, href⟩
  have within : ∀ p ∈ f.group.parts, p ∈ form.parts f.group := by
    cases form with
    | placed placement => exact fun _ hp => hp
    | component provider => exact fun _ hp => .tail _ hp
  have both : ∃ machine ∈ f.group.parts, ∃ scaler ∈ f.group.parts,
      machine.ref name = f.machineRef name ∧ scaler.ref name = f.scalerRef name := by
    cases f with
    | stack o =>
        exact ⟨_, List.mem_append_right _ (.head _), _, List.mem_append_right _ (.tail _ (.head _)),
          rfl, rfl⟩
    | template o =>
        exact ⟨_, List.mem_append_right _ (.head _), _, List.mem_append_right _ (.tail _ (.head _)),
          rfl, GroupPart.ref_bare _ _⟩
  obtain ⟨machine, hm, scaler, hs, machineRef, scalerRef⟩ := both
  obtain ⟨m, hmachine, hmref⟩ := registered machine (within _ hm)
  obtain ⟨r, hscaler, hrref⟩ := registered scaler (within _ hs)
  exact ⟨m, r, hmachine, hmref.trans machineRef, hscaler, hrref.trans scalerRef⟩

theorem calls_managed (name : String) (x : ClusterInput) (o : ManagedOptions) (form : GroupForm)
    (s : Site) : History.calls ((GroupOptions.managed o).planAs name x form s).trace = [] := by
  have created (placement : Placement) (s : Site) :
      History.calls (ManagedGroup.create name x o placement s).trace = [] := by
    refine History.calls_eq_nil fun e he => ?_
    rw [ManagedGroup.mem_trace_create he]
    exact Draft.event_ne_asked _ _
  cases form with
  | placed placement => exact (congrArg _ (trace_bind_pure _ _ s)).trans (created _ s)
  | component provider =>
      refine (congrArg _ (trace_bind_pure _ _ s)).trans ?_
      by_cases accepted : o.check name = .ok () ∧ name ≠ ""
      · exact (calls_componentPlan accepted.1 accepted.2).trans (created _ _)
      · exact congrArg _ (trace_componentPlan_nil accepted)

end Forms

/-! A pair that is given. -/

section Given

variable {name : String} {x : ClusterInput} {placement : Placement} {s : Site}

theorem obtain_of_given {f : Firewall} {cluster : Deferred Cluster} {pair : GroupPair}
    {g : Resource} (h : (GroupPair.obtain name f cluster placement s).answer = .ok pair)
    (hg : f.group = some g) :
    ∃ rule, f.ingressRule = some rule ∧ pair = ⟨g, rule⟩ ∧
      ∀ placement, GroupPair.obtain name f cluster placement = Pure.pure ⟨g, rule⟩ := by
  unfold GroupPair.obtain at h ⊢
  rw [hg] at h ⊢
  cases hr : f.ingressRule with
  | none =>
      rw [hr] at h
      cases h
  | some rule =>
      rw [hr] at h
      cases h
      exact ⟨rule, rfl, rfl, fun _ => rfl⟩

theorem obtained_of_make {o : WorkerOptions} {cluster : Deferred Cluster} {p : Preparation}
    (h : (Preparation.make name o cluster placement s).answer = .ok p) :
    (GroupPair.obtain name o.firewall cluster placement s).answer = .ok p.pair := by
  obtain ⟨pair, hpair, h⟩ := answer_bind_eq_ok.1 h
  obtain ⟨keyName, _, h⟩ := answer_bind_eq_ok.1 h
  obtain ⟨imageId, _, h⟩ := answer_bind_eq_ok.1 h
  obtain ⟨subnets, _, h⟩ := answer_bind_eq_ok.1 h
  cases h
  exact hpair

theorem StackGroup.obtained_of_create {o : WorkerOptions} {g : StackGroup}
    (h : (create name x o placement s).answer = .ok g) :
    ∃ pair placement here,
      (GroupPair.obtain name o.firewall x.cluster placement here).answer = .ok pair ∧
        some g.group = some pair.group := by
  obtain ⟨_, _, h⟩ := answer_bind_eq_ok.1 h
  obtain ⟨p, hp, h⟩ := answer_bind_eq_ok.1 h
  obtain ⟨here, _, h⟩ := answer_bind_eq_ok.1 h
  obtain ⟨script, _, h⟩ := answer_bind_eq_ok.1 h
  obtain ⟨rootDevice, _, h⟩ := answer_bind_eq_ok.1 h
  obtain ⟨configuration, _, h⟩ := answer_bind_eq_ok.1 h
  obtain ⟨stack, _, h⟩ := answer_bind_eq_ok.1 h
  cases h
  exact ⟨p.pair, _, _, obtained_of_make hp, rfl⟩

theorem TemplateGroup.obtained_of_create {o : TemplateOptions} {g : TemplateGroup}
    (h : (create name x o placement s).answer = .ok g) :
    ∃ pair placement here,
      (GroupPair.obtain name o.firewall x.cluster placement here).answer = .ok pair ∧
        some g.group = some pair.group := by
  obtain ⟨_, _, h⟩ := answer_bind_eq_ok.1 h
  obtain ⟨p, hp, h⟩ := answer_bind_eq_ok.1 h
  obtain ⟨root, _, h⟩ := answer_bind_eq_ok.1 h
  obtain ⟨device, _, h⟩ := answer_bind_eq_ok.1 h
  obtain ⟨template, _, h⟩ := answer_bind_eq_ok.1 h
  obtain ⟨scalingGroup, _, h⟩ := answer_bind_eq_ok.1 h
  cases h
  exact ⟨p.pair, _, _, obtained_of_make hp, rfl⟩

theorem answer_of_componentPlan {α : Type} {check : Except Failure Unit} {self : Draft}
    {create : Resource → Plan α} {outputs : α → Entries (Deferred Json)} {r : Resource × α}
    (h : (componentPlan check self create outputs s).answer = .ok r) :
    ∃ self here, (create self here).answer = .ok r.2 := by
  obtain ⟨_, _, h⟩ := answer_bind_eq_ok.1 h
  obtain ⟨self, _, h⟩ := answer_bind_eq_ok.1 h
  obtain ⟨a, ha, h⟩ := answer_bind_eq_ok.1 h
  obtain ⟨_, _, h⟩ := answer_bind_eq_ok.1 h
  cases h
  exact ⟨self, _, ha⟩

/-- A group of one's own is given back with the security group that was obtained for it. -/
theorem obtained_of_planAs {o : GroupOptions} {form : GroupForm} {group : Option Resource}
    (h : (o.planAs name x form s).answer = .ok group) {f : Firewall} (hf : o.firewall? = some f) :
    ∃ pair placement here, (GroupPair.obtain name f x.cluster placement here).answer = .ok pair ∧
      group = some pair.group := by
  cases o with
  | stack o =>
      cases hf
      cases form with
      | placed placement =>
          obtain ⟨g, hg, h⟩ := answer_bind_eq_ok.1 h
          cases h
          exact StackGroup.obtained_of_create hg
      | component provider =>
          obtain ⟨r, hr, h⟩ := answer_bind_eq_ok.1 h
          cases h
          obtain ⟨_, _, hg⟩ := answer_of_componentPlan hr
          exact StackGroup.obtained_of_create hg
  | template o =>
      cases hf
      cases form with
      | placed placement =>
          obtain ⟨g, hg, h⟩ := answer_bind_eq_ok.1 h
          cases h
          exact TemplateGroup.obtained_of_create hg
      | component provider =>
          obtain ⟨r, hr, h⟩ := answer_bind_eq_ok.1 h
          cases h
          obtain ⟨_, _, hg⟩ := answer_of_componentPlan hr
          exact TemplateGroup.obtained_of_create hg
  | managed o => cases hf

end Given

/-- A group that is planned without a failure registers exactly what its options say, its component
included, and asks exactly what they and the cluster say, each question once. A pair of a security group
and its rule that is given is taken as it is. -/
theorem group_inventory (name : String) (x : ClusterInput) (o : GroupOptions) (form : GroupForm)
    (s : Site) (group : Option Resource) (hplanned : (o.planAs name x form s).answer = .ok group)
    (hunfailed : History.Unfailed (o.planAs name x form s).trace) :
    (Report.ofEvents (o.planAs name x form s).trace).registrations.map Registration.ref =
        (form.parts o).map (GroupPart.ref name) ∧
      (∃ qs, o.Asks s.cloud x.cluster qs ∧
        (Report.ofEvents (o.planAs name x form s).trace).calls =
          qs.map (callOf (form.placement (groupSelf o.self.type name) s))) ∧
      ∀ f g, o.firewall? = some f → f.group = some g →
        ∃ rule, f.ingressRule = some rule ∧ group = some g ∧
          ∀ placement, GroupPair.obtain name f x.cluster placement = Pure.pure ⟨g, rule⟩ := by
  refine ⟨?_, ?_, fun f g hf hg => ?_⟩
  · rw [History.registrations_of_unfailed hunfailed]
    exact (tries_planAs name x o form s).2 group hplanned
  · have own {f : Fleet} (h : o = f.group) : ∃ qs, o.Asks s.cloud x.cluster qs ∧
        History.calls (o.planAs name x form s).trace =
          qs.map (callOf (form.placement (f.self name) s)) := by
      subst h
      obtain ⟨m, r, completes⟩ := completes_of_unfailed hplanned hunfailed
      rw [trace_planAs]
      exact completes.asks
    cases o with
    | stack o => exact own (f := .stack o) rfl
    | template o => exact own (f := .template o) rfl
    | managed o => exact ⟨[], .managed o, calls_managed name x o form s⟩
  · obtain ⟨pair, _, _, obtained, rfl⟩ := obtained_of_planAs hplanned hf
    obtain ⟨rule, hrule, rfl, given⟩ := obtain_of_given obtained hg
    exact ⟨rule, hrule, rfl, given⟩

/-- Whether a run has gone well can be evaluated. -/
theorem unfailed_of_done {α : Type} {run : Traced Event (Except Failure α)}
    (h : run.answer.toOption.isSome = true ∧
      (History.attempts run.trace).all (·.failure.isNone) = true) :
    (∃ a, run.answer = .ok a) ∧ History.Unfailed run.trace := by
  obtain ⟨done, all⟩ := h
  constructor
  · cases hrun : run.answer with
    | ok a => exact ⟨a, rfl⟩
    | error e => simp [hrun, Except.toOption] at done
  · exact fun a ha => Option.isNone_iff_eq_none.1 (List.all_eq_true.1 all a ha)

/-- A small group that is launched from a template, planned as a component. -/
def sizedRun : Traced Event (Except Failure (Option Resource)) :=
  (GroupOptions.template (sizedOptions ⟨none, none, none⟩)).planAs "workers"
    (.descriptor smallCluster) (.component none) smallSite

theorem sizedRun_done : sizedRun.answer.toOption.isSome = true ∧
    (History.attempts sizedRun.trace).all (·.failure.isNone) = true := by
  decide +kernel

/-- What such a group asks where routes are to be looked up: for the recommended image of its cluster's
version, for the routes of the cluster's two subnets, and for the devices of the image. -/
def sizedQuestions : List Question := [
  .parameter "/aws/service/eks/optimized-ami/1.30/amazon-linux-2/recommended/image_id",
  .routing (.tableOfSubnet (.text "a")), .routing (.tableOfSubnet (.text "b")),
  .image (.text "ami-1")]

theorem eq_sizedQuestions {qs : List Question}
    (h : (GroupOptions.template (sizedOptions ⟨none, none, none⟩)).Asks smallCloud
      (ClusterInput.descriptor smallCluster).cluster qs) : qs = sizedQuestions := by
  obtain ⟨⟩ | ⟨ofImage, ofSubnets, image, subnets, rfl⟩ := h
  have subnetsAsked : ofSubnets =
      [.routing (.tableOfSubnet (.text "a")), .routing (.tableOfSubnet (.text "b"))] := by
    cases subnets with
    | given given => cases given
    | sorted _ inside outside set =>
        cases inside
        cases outside
        rcases set with set | set <;> cases set
    | chosen _ _ _ every _ =>
        cases every
        rfl
  subst subnetsAsked
  cases image with
  | given truthy _ => cases truthy
  | recommended _ atVersion ofFamily named answered =>
      cases answered
      rcases atVersion with ⟨truthy, _⟩ | ⟨_, known⟩
      · cases truthy
      · cases known
        rcases ofFamily with ⟨family, _⟩ | ⟨_, gpu⟩ | _
        · cases family
        · cases gpu
        · subst named
          rfl

theorem group_inventory_sizedOptions :
    (∃ group, sizedRun.answer = .ok group) ∧ History.Unfailed sizedRun.trace ∧
    (Report.ofEvents sizedRun.trace).registrations.map Registration.ref = [
      ⟨"eks:nodegroups:NodeGroupV2", "workers"⟩,
      ⟨ResourceRef.securityGroupType, "workers-nodeSecurityGroup"⟩,
      ⟨ResourceRef.securityGroupRuleType, "workers-eksNodeIngressRule"⟩,
      ⟨ResourceRef.securityGroupRuleType, "workers-eksNodeClusterIngressRule"⟩,
      ⟨ResourceRef.securityGroupRuleType, "workers-eksExtApiServerClusterIngressRule"⟩,
      ⟨ResourceRef.securityGroupRuleType, "workers-eksNodeInternetEgressRule"⟩,
      ⟨ResourceRef.securityGroupRuleType, "workers-eksClusterIngressRule"⟩,
      ⟨"aws:ec2/launchTemplate:LaunchTemplate", "workers-launchTemplate"⟩,
      ⟨"aws:autoscaling/group:Group", "workers"⟩] ∧
    (Report.ofEvents sizedRun.trace).calls.map Call.question = sizedQuestions := by
  obtain ⟨⟨group, hgroup⟩, unfailed⟩ := unfailed_of_done sizedRun_done
  obtain ⟨registered, ⟨qs, asks, asked⟩, _⟩ := group_inventory "workers" (.descriptor smallCluster)
    (.template (sizedOptions ⟨none, none, none⟩)) (.component none) smallSite group hgroup unfailed
  refine ⟨⟨group, hgroup⟩, unfailed, registered.trans rfl, ?_⟩
  refine (congrArg (List.map Call.question) asked).trans ?_
  rw [List.map_map, ← eq_sizedQuestions asks]
  exact List.map_id qs

end FleetPlan
