import Mathlib.Order.Nat
import FleetPlan.Plan.UserResource
import FleetPlan.Proofs.ApartHistories
import FleetPlan.Proofs.ClusterDeferral
import FleetPlan.Proofs.KnownInputs
import FleetPlan.Proofs.OptionTypes

/-!
The order in which a group's resources can be created.

Nothing is created before what it is recorded to depend on. For a group of one's own, the security
group and the rule that lets the nodes reach the control plane then come before the description of
the machines, and that comes before what scales them, which also waits for what the cluster says that
nodes need; a managed group waits for the identity mapping. A component is waited for in all that was
tried below it so far, so one that is childless keeps nobody waiting.
-/
namespace FleetPlan

open Plan

namespace Firewall

variable {f : Firewall}

theorem type_groupRef (h : f.IsTyped) (name : String) :
    (f.groupRef name).type = ResourceRef.securityGroupType := by
  unfold groupRef
  split
  case h_1 g hg => exact h.group g hg
  case h_2 => rfl

theorem type_ruleRef (h : f.IsTyped) (name : String) :
    (f.ruleRef name).type = ResourceRef.securityGroupRuleType := by
  unfold ruleRef
  split
  case h_1 r _ hr => exact h.rule r hr
  case h_2 => rfl

end Firewall

theorem Cluster.mem_fleetDependencies {c : Cluster} {rs : List Resource}
    (h : c.fleetDependencies.outcome = .ok rs) {w : Resource}
    (hw : c.networkPlugin.outcome = .ok (some w) ∨ c.nodeAccess.outcome = .ok (some w)) :
    w ∈ rs := by
  obtain ⟨plugin, hplugin, h⟩ := Deferred.outcome_bind_eq_ok.mp h
  obtain ⟨access, haccess, h⟩ := Deferred.outcome_bind_eq_ok.mp h
  cases h
  rcases hw with hw | hw
  · rw [hplugin] at hw
    cases hw
    exact List.mem_append_left _ (.head _)
  · rw [haccess] at hw
    cases hw
    exact List.mem_append_right _ (.head _)

theorem Cluster.mem_accessDependencies {c : Cluster} {rs : List Resource}
    (h : c.accessDependencies.outcome = .ok rs) {w : Resource}
    (hw : c.nodeAccess.outcome = .ok (some w)) : w ∈ rs := by
  obtain ⟨access, haccess, h⟩ := Deferred.outcome_bind_eq_ok.mp h
  cases h
  rw [haccess] at hw
  cases hw
  exact .head _

section Pair

variable {pair : GroupPair} {o : WorkerOptions} {f : Firewall} {cluster : Deferred Cluster}

theorem GroupPair.sources_groupId {v : Json} (h : pair.groupId.outcome = .ok v) :
    pair.group.ref ∈ pair.groupId.sources ∧ pair.rule.ref ∈ pair.groupId.sources := by
  obtain ⟨id, hid, _⟩ := Deferred.outcome_bind_eq_ok.mp h
  refine ⟨Deferred.mem_sources_bind_left (.head _), ?_⟩
  exact Deferred.mem_sources_bind_right hid (Deferred.mem_sources_bind_left (.head _))

theorem GroupPair.startsWith_nodeGroupId (pair : GroupPair) (f : Firewall)
    (cluster : Deferred Cluster) : (pair.nodeGroupId f cluster).StartsWith pair.groupId := by
  unfold GroupPair.nodeGroupId
  split
  · exact Deferred.startsWith_refl _
  · exact Deferred.startsWith_bind _ _

theorem Preparation.sources_groupIdsOf {v : Json}
    (h : (groupIdsOf pair o cluster).outcome = .ok v) :
    pair.group.ref ∈ (groupIdsOf pair o cluster).sources ∧
      pair.rule.ref ∈ (groupIdsOf pair o cluster).sources := by
  have first := pair.startsWith_nodeGroupId o.firewall cluster
  have all : (Deferred.all (GroupPair.nodeGroupId pair o.firewall cluster ::
      o.firewall.extraGroups.map Resource.id)).StartsWith
        (GroupPair.nodeGroupId pair o.firewall cluster) := Deferred.startsWith_bind _ _
  have whole : (groupIdsOf pair o cluster).StartsWith _ := Deferred.startsWith_bind _ _
  obtain ⟨_, hall⟩ := whole.exists_ok h
  obtain ⟨_, hfirst⟩ := all.exists_ok hall
  obtain ⟨_, hid⟩ := first.exists_ok hfirst
  obtain ⟨group, rule⟩ := GroupPair.sources_groupId hid
  exact ⟨whole.sources (all.sources (first.sources group)),
    whole.sources (all.sources (first.sources rule))⟩

end Pair

namespace Fleet

variable {name : String} {x : ClusterInput} {placement : Placement} {s : Site} {f : Fleet}
  {form : GroupForm} {d : FleetDrafts} {here : Site} {e : Event}

namespace AreAt

variable {r : Registration}

theorem pair_mem_dependsOn (h : f.AreAt name x placement s d here) (hpast : s.past.Apart)
    (htyped : f.options.firewall.IsTyped) (hr : d.machine.settle here.past = .ok r) :
    f.options.firewall.groupRef name ∈ r.dependsOn ∧
      f.options.firewall.ruleRef name ∈ r.dependsOn := by
  obtain ⟨p, hp, starts, hnull⟩ := h.serves.groups
  obtain ⟨v, hv⟩ := Draft.outcome_of_settle hr hp
  obtain ⟨_, hids⟩ := starts.exists_ok hv
  obtain ⟨group, rule⟩ := Preparation.sources_groupIdsOf hids
  rw [h.serves.pair.group] at group
  rw [h.serves.pair.rule] at rule
  have depends {ref : ResourceRef} (hs : ref ∈ (Preparation.groupIdsOf d.pair f.options
      x.cluster).sources) (htype : ref.type ∈ supportTypes) (hcloud : ref.isOfCloud = true) :
      ref ∈ r.dependsOn := by
    refine Draft.mem_dependsOn_of_source hr (h.apart hpast) hp hnull (starts.sources hs) hcloud ?_
    rintro rfl
    rw [h.serves.machineRef] at htype
    exact supportTypes_disjoint _ htype (type_mem_types (.head _))
  refine ⟨depends group ?_ ?_, depends rule ?_ ?_⟩
  · rw [Firewall.type_groupRef htyped]
    exact .head _
  · rw [ResourceRef.isOfCloud, Firewall.type_groupRef htyped]
    decide
  · rw [Firewall.type_ruleRef htyped]
    exact .tail _ (.head _)
  · rw [ResourceRef.isOfCloud, Firewall.type_ruleRef htyped]
    decide

theorem machine_mem_dependsOn (h : f.AreAt name x placement s d here) (hpast : s.past.Apart)
    (hr : (d.scaler (d.machine.resource here)).settle
      (here.past ++ [d.machine.event here.past]) = .ok r) : f.machineRef name ∈ r.dependsOn := by
  obtain ⟨key, p, hp, starts, hnull⟩ := h.serves.machine (d.machine.resource here)
  have source : f.machineRef name ∈ ((d.machine.resource here).output key).sources := by
    rw [← h.serves.machineRef]
    exact .head _
  refine Draft.mem_dependsOn_of_source hr ?_ hp hnull (starts.sources source) ?_ ?_
  · exact History.apart_append (h.apart hpast)
      (Draft.apart_event_of_custom h.serves.machineCustom _)
  · cases f <;> (simp only [machineRef, ResourceRef.isOfCloud]; decide)
  · rw [h.serves.scalerRef]
    exact machineRef_ne_scalerRef name f

theorem needed_mem_dependsOn (h : f.AreAt name x placement s d here)
    (hr : (d.scaler (d.machine.resource here)).settle
      (here.past ++ [d.machine.event here.past]) = .ok r)
    {c : Cluster} (hc : x.cluster.outcome = .ok c) {w : Resource}
    (hw : c.networkPlugin.outcome = .ok (some w) ∨ c.nodeAccess.outcome = .ok (some w))
    {ref : ResourceRef} (hstands : s.past.StandsFor w.attempt ref) (hne : ref ≠ f.scalerRef name) :
    ref ∈ r.dependsOn := by
  obtain ⟨_, rs, _, _, hafter, _⟩ := Draft.settle_eq_ok hr
  have known := hafter
  rw [h.serves.after, Deferred.outcome_bind_of_ok hc] at known
  obtain ⟨t, ht, _⟩ := h.exists_support
  refine Draft.mem_dependsOn_of_after hr hafter (c.mem_fleetDependencies known hw) ?_ ?_
  · rw [ht]
    exact (hstands.append t).append _
  · rwa [h.serves.scalerRef]

end AreAt

end Fleet

theorem History.StandsFor.at_site {s : Site} {a : Attempt} {ref : ResourceRef}
    (h : s.past.StandsFor a ref) (form : GroupForm) (self : Draft) :
    (form.site self s).past.StandsFor a ref := by
  cases form with
  | placed _ => exact h
  | component _ => exact h.append _

/-- Times at which resources are created, each after all that it is recorded to depend on. -/
def History.Respects {T : Type} [Preorder T] (past : History) (time : ResourceRef → T) : Prop :=
  ∀ r, .registered r ∈ past → ∀ ref ∈ r.dependsOn, time ref < time r.ref

/-- Whether an event keeps to times. -/
def Event.keepsTo (time : ResourceRef → Nat) : Event → Bool
  | .registered r => r.dependsOn.all fun ref => time ref < time r.ref
  | _ => true

theorem History.respects_iff {past : History} {time : ResourceRef → Nat} :
    past.Respects time ↔ past.all (Event.keepsTo time) = true := by
  rw [List.all_eq_true]
  constructor
  · intro h e he
    cases e with
    | registered r =>
        rw [Event.keepsTo, List.all_eq_true]
        exact fun ref href => decide_eq_true (h r he ref href)
    | refused _ _ _ _ | asked _ | published _ _ | unpublished _ _ => rfl
  · intro h r hr ref href
    exact of_decide_eq_true (List.all_eq_true.mp (h _ hr) ref href)

instance (past : History) (time : ResourceRef → Nat) : Decidable (past.Respects time) :=
  decidable_of_iff _ History.respects_iff.symm

section Times

variable {T : Type} [Preorder T] {name : String} {x : ClusterInput} {s : Site} {form : GroupForm}
  {time : ResourceRef → T}

theorem Fleet.pair_before_machine {f : Fleet} (hpast : s.past.Apart)
    (htyped : f.options.firewall.IsTyped) (htime : (f.history name x s form).Respects time)
    (h : none ∈ (f.history name x s form).verdicts (f.machineRef name)) :
    time (f.options.firewall.groupRef name) < time (f.machineRef name) ∧
      time (f.options.firewall.ruleRef name) < time (f.machineRef name) := by
  obtain ⟨r, hr, href⟩ := History.exists_registered h
  obtain ⟨d, here, at_, _, ⟨_, settled⟩ | ⟨scaler, _⟩⟩ :=
    drafts_of_registered hr (href ▸ .head _)
  · obtain ⟨group, rule⟩ := at_.pair_mem_dependsOn (apart_site hpast) htyped settled
    rw [← href]
    exact ⟨htime r hr _ group, htime r hr _ rule⟩
  · exact absurd (href.symm.trans scaler) (machineRef_ne_scalerRef name f)

theorem Fleet.before_scaler {f : Fleet} (hpast : s.past.Apart)
    (htime : (f.history name x s form).Respects time)
    (h : none ∈ (f.history name x s form).verdicts (f.scalerRef name)) :
    none ∈ (f.history name x s form).verdicts (f.machineRef name) ∧
      time (f.machineRef name) < time (f.scalerRef name) ∧
      ∀ c, x.cluster.outcome = .ok c → ∀ w,
        (c.networkPlugin.outcome = .ok (some w) ∨ c.nodeAccess.outcome = .ok (some w)) →
          ∀ ref, s.past.StandsFor w.attempt ref → ref ≠ f.scalerRef name →
            time ref < time (f.scalerRef name) := by
  obtain ⟨r, hr, href⟩ := History.exists_registered h
  obtain ⟨d, here, at_, tried, ⟨machine, _⟩ | ⟨_, settled⟩⟩ :=
    drafts_of_registered hr (href ▸ .tail _ (.head _))
  · exact absurd (machine.symm.trans href) (machineRef_ne_scalerRef name f)
  -- The description was registered as well: what scales the machines needs one of its outputs.
  · obtain ⟨m, hm⟩ := at_.machine_settles settled
    have depends := at_.machine_mem_dependsOn (apart_site hpast) settled
    have registered : d.machine.event here.past = .registered m := by rw [Draft.event, hm]
    have own := (Draft.ref_of_settle hm).trans at_.serves.machineRef
    rw [registered] at tried
    rw [← href]
    refine ⟨History.mem_verdicts.mpr ⟨_, tried, _, rfl, own, rfl⟩, htime r hr _ depends, ?_⟩
    intro c hc w hw ref hstands hne
    exact htime r hr _ (at_.needed_mem_dependsOn settled hc hw (hstands.at_site form _)
      (href ▸ hne))

theorem ManagedGroup.access_before {o : ManagedOptions}
    (htime : (history name x o s form).Respects time)
    (h : none ∈ (history name x o s form).verdicts (groupRef name)) {c : Cluster}
    (hc : x.cluster.outcome = .ok c) {w : Resource} (hw : c.nodeAccess.outcome = .ok (some w))
    {ref : ResourceRef} (hstands : s.past.StandsFor w.attempt ref) (hne : ref ≠ groupRef name) :
    time ref < time (groupRef name) := by
  obtain ⟨r, hr, href⟩ := History.exists_registered h
  have settled := settle_of_registered hr href
  obtain ⟨_, rs, _, _, hafter, _⟩ := Draft.settle_eq_ok settled
  have known := hafter
  rw [draftOf, draft, Deferred.outcome_bind_of_ok hc] at known
  have depends := Draft.mem_dependsOn_of_after settled hafter
    (c.mem_accessDependencies known hw) (hstands.at_site form _) hne
  rw [← href]
  exact htime r hr _ depends

end Times

/-- Whatever the order in which resources are created, each after all that it is recorded to depend
on: the security group of a group of one's own and the rule that lets its nodes reach the control
plane come before the description of its machines, and these three, and all that stands for what the
cluster says that nodes need, before what scales them; all that stands for the identity mapping comes
before a managed group. -/
theorem created_in_order (name : String) (x : ClusterInput) {s : Site} (hpast : s.past.Apart)
    (form : GroupForm) {T : Type} [Preorder T] (time : ResourceRef → T) :
    (∀ f : Fleet, f.options.firewall.IsTyped → (f.history name x s form).Respects time →
      (none ∈ (f.history name x s form).verdicts (f.machineRef name) →
        time (f.options.firewall.groupRef name) < time (f.machineRef name) ∧
        time (f.options.firewall.ruleRef name) < time (f.machineRef name)) ∧
      (none ∈ (f.history name x s form).verdicts (f.scalerRef name) →
        time (f.options.firewall.groupRef name) < time (f.scalerRef name) ∧
        time (f.options.firewall.ruleRef name) < time (f.scalerRef name) ∧
        time (f.machineRef name) < time (f.scalerRef name) ∧
        ∀ c, x.cluster.outcome = .ok c → ∀ w,
          (c.networkPlugin.outcome = .ok (some w) ∨ c.nodeAccess.outcome = .ok (some w)) →
            ∀ ref, s.past.StandsFor w.attempt ref → ref ≠ f.scalerRef name →
              time ref < time (f.scalerRef name))) ∧
    (∀ o : ManagedOptions, (ManagedGroup.history name x o s form).Respects time →
      none ∈ (ManagedGroup.history name x o s form).verdicts (ManagedGroup.groupRef name) →
        ∀ c, x.cluster.outcome = .ok c → ∀ w, c.nodeAccess.outcome = .ok (some w) →
          ∀ ref, s.past.StandsFor w.attempt ref → ref ≠ ManagedGroup.groupRef name →
            time ref < time (ManagedGroup.groupRef name)) := by
  refine ⟨fun f htyped htime => ⟨?_, fun h => ?_⟩, fun o htime h c hc w hw ref hstands hne => ?_⟩
  · exact Fleet.pair_before_machine hpast htyped htime
  · obtain ⟨described, machine, needed⟩ := Fleet.before_scaler hpast htime h
    obtain ⟨group, rule⟩ := Fleet.pair_before_machine hpast htyped htime described
    exact ⟨group.trans machine, rule.trans machine, machine, needed⟩
  · exact ManagedGroup.access_before htime h hc hw hstands hne

/-! An identity mapping that is a component, with something below it and without. -/

def accessDraft : Draft := (UserResource.component "eks:index:NodeAccess").draft "access" .top []

/-- A site where the component was registered, and nothing below it. -/
def childlessSite : Site := smallSite.after [accessDraft.event smallSite.past]

def mappingDraft : Draft :=
  (UserResource.custom "kubernetes:core/v1:ConfigMap").draft "mapping"
    ⟨some (accessDraft.resource smallSite), none⟩ []

/-- A site where a resource was registered below the component. -/
def mappedSite : Site := childlessSite.after [mappingDraft.event childlessSite.past]

/-- A cluster whose identity mapping is that component. -/
def accessCluster : Cluster :=
  { smallCluster with nodeAccess := pure (some (accessDraft.resource smallSite)) }

/-- An order in which the resources of small groups can be created; all others come last. -/
def smallOrder : List ResourceRef := [
  mappingDraft.ref,
  ⟨ResourceRef.securityGroupType, "workers-nodeSecurityGroup"⟩,
  ⟨ResourceRef.securityGroupRuleType, "workers-eksClusterIngressRule"⟩,
  ⟨"aws:ec2/launchConfiguration:LaunchConfiguration", "workers-nodeLaunchConfiguration"⟩]

theorem standsFor_mapping :
    mappedSite.past.StandsFor (accessDraft.resource smallSite).attempt mappingDraft.ref := by
  refine .under rfl (b := mappingDraft.attempt childlessSite.past) ?_ (.self rfl)
  refine List.mem_filter.mpr ⟨List.mem_filterMap.mpr ⟨_, ?_, Draft.attempt?_event _ _⟩, by decide⟩
  exact List.mem_append_right _ (.head _)

theorem apart_mappedSite : mappedSite.past.Apart := by
  unfold History.Apart
  decide +kernel

theorem History.none_mem_verdicts {past : History} {ref : ResourceRef}
    (h : (past.verdicts ref).any Option.isNone = true) : none ∈ past.verdicts ref := by
  obtain ⟨v, hv, hnone⟩ := List.any_eq_true.mp h
  rwa [Option.isNone_iff_eq_none.mp hnone] at hv

theorem created_in_order_mappedSite :
    (smallOrder.idxOf ((smallOptions smallProfile 20).firewall.groupRef "workers") <
        smallOrder.idxOf ((Fleet.stack (smallOptions smallProfile 20)).machineRef "workers") ∧
      smallOrder.idxOf ((smallOptions smallProfile 20).firewall.ruleRef "workers") <
        smallOrder.idxOf ((Fleet.stack (smallOptions smallProfile 20)).machineRef "workers")) ∧
    smallOrder.idxOf mappingDraft.ref <
      smallOrder.idxOf ((Fleet.stack (smallOptions smallProfile 20)).scalerRef "workers") ∧
    smallOrder.idxOf mappingDraft.ref < smallOrder.idxOf (ManagedGroup.groupRef "workers") := by
  obtain ⟨fleets, managed⟩ := created_in_order "workers" (.descriptor accessCluster)
    apart_mappedSite (.component none) smallOrder.idxOf
  obtain ⟨machine, scaler⟩ := fleets (.stack (smallOptions smallProfile 20))
    ⟨fun _ h => (nomatch h), fun _ h => (nomatch h)⟩ (by decide +kernel)
  obtain ⟨_, _, _, needed⟩ := scaler (History.none_mem_verdicts (by decide +kernel))
  refine ⟨machine (History.none_mem_verdicts (by decide +kernel)), ?_, ?_⟩
  · exact needed accessCluster rfl _ (.inr rfl) _ standsFor_mapping (by decide)
  · exact managed (smallManagedOptions "arn:nodes") (by decide +kernel)
      (History.none_mem_verdicts (by decide +kernel)) accessCluster rfl _ rfl _ standsFor_mapping
      (by decide)

/-- A managed group can be created before the identity mapping of its cluster if that is a component
with nothing below it. -/
theorem childless_access_unordered :
    accessCluster.nodeAccess.outcome = .ok (some (accessDraft.resource smallSite)) ∧
    none ∈ (ManagedGroup.history "workers" (.descriptor accessCluster)
      (smallManagedOptions "arn:nodes") childlessSite (.placed .top)).verdicts
        (ManagedGroup.groupRef "workers") ∧
    ∃ time : ResourceRef → Nat,
      (childlessSite.past ++ ManagedGroup.history "workers" (.descriptor accessCluster)
        (smallManagedOptions "arn:nodes") childlessSite (.placed .top)).Respects time ∧
      time (ManagedGroup.groupRef "workers") < time accessDraft.ref := by
  refine ⟨rfl, History.none_mem_verdicts (by decide +kernel), ?_⟩
  refine ⟨[ManagedGroup.groupRef "workers", accessDraft.ref].idxOf, ?_, ?_⟩
  · decide +kernel
  · decide +kernel

end FleetPlan
