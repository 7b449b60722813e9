import FleetPlan.Fleet.ManagedGroup
import FleetPlan.Proofs.GroupForms

/-!
Managed groups in either form.

A managed group is one draft, tried once where the group is planned; whether that is at a placement
or below a component makes no other difference.
-/
namespace FleetPlan

namespace ManagedGroup

variable {name : String} {o : ManagedOptions} {x : ClusterInput} {s : Site} {form : GroupForm}

/-- The resource that a managed group is. -/
def groupRef (name : String) : ResourceRef := ⟨"aws:eks/nodeGroup:NodeGroup", name⟩

/-- The component that a managed group is planned as. -/
def self (name : String) : Draft := groupSelf componentType name

/-- What happens when a managed group is planned in one form or the other. -/
def history (name : String) (x : ClusterInput) (o : ManagedOptions) (s : Site) :
    GroupForm → History
  | .placed placement => (create name x o placement s).trace
  | .component provider => (component name x o provider s).trace

/-- The draft of a managed group in one form or the other. -/
def draftOf (name : String) (x : ClusterInput) (o : ManagedOptions) (s : Site)
    (form : GroupForm) : Draft :=
  draft name o x.cluster (form.placement (self name) s)

theorem mem_trace_create {placement : Placement} {e : Event}
    (h : e ∈ (create name x o placement s).trace) :
    e = (draft name o x.cluster placement).event s.past := by
  rw [create] at h
  cases hchecked : o.check name with
  | error _ => rw [hchecked] at h; cases h
  | ok _ =>
      rw [hchecked, Plan.ofExcept_ok, Plan.pure_bind] at h
      by_cases hnamed : (draft name o x.cluster placement).Named
      · rw [Plan.register_of_named hnamed] at h
        exact List.mem_singleton.mp h
      · obtain ⟨_, hfail⟩ := Plan.register_of_not_named hnamed s
        rw [hfail] at h
        cases h

theorem trace_create {placement : Placement} (hchecked : o.check name = .ok ())
    (hnamed : (draft name o x.cluster placement).Named) :
    (create name x o placement s).trace = [(draft name o x.cluster placement).event s.past] := by
  rw [create, hchecked, Plan.ofExcept_ok, Plan.pure_bind, Plan.register_of_named hnamed]

theorem self_ne (name : String) : (self name).ref ≠ groupRef name := by
  intro h
  have types : (self name).ref.type = (groupRef name).type := by rw [h]
  revert types
  simp only [self, groupSelf, Draft.ref, groupRef]
  decide

theorem settle_of_registered {r : Registration} (h : .registered r ∈ history name x o s form)
    (href : r.ref = groupRef name) :
    (draftOf name x o s form).settle (form.site (self name) s).past = .ok r := by
  cases form with
  | placed placement => exact Draft.settle_of_event (mem_trace_create h)
  | component provider =>
      rcases mem_trace_componentPlan h with h | h | h
      · have own := Draft.ref_of_settle (Draft.settle_of_event h)
        exact absurd (own.symm.trans href) (self_ne name)
      · exact Draft.settle_of_event (mem_trace_create h)
      · cases h

theorem verdicts_history (hchecked : o.check name = .ok ())
    (hnamed : (draftOf name x o s form).Named) :
    (history name x o s form).verdicts (groupRef name) =
      [((draftOf name x o s form).attempt (form.site (self name) s).past).failure] := by
  have tried {placement : Placement} (here : Site)
      (hnamed : (draft name o x.cluster placement).Named) :
      History.verdicts (create name x o placement here).trace (groupRef name) =
        [((draft name o x.cluster placement).attempt here.past).failure] := by
    rw [trace_create hchecked hnamed, History.verdicts_event]
    exact if_pos rfl
  cases form with
  | placed placement => exact tried s hnamed
  | component provider =>
      refine Eq.trans (verdicts_componentPlan hchecked hnamed.name (self_ne name)) ?_
      exact tried _ hnamed

end ManagedGroup

/-- Options of a managed group that asks for a role, and for nothing else. -/
def smallManagedOptions (arn : String) : ManagedOptions where
  groupName := .absent
  clusterName := .absent
  role := none
  roleArn := .now (some arn)
  subnets := .absent
  scaling := none
  instanceTypes := none
  purchase := none
  image := none
  diskSize := none
  releaseVersion := .absent
  version := .absent
  forceUpdate := none
  labels := none
  taints := none
  launchTemplate := none
  remoteAccess := none
  updatePolicy := none
  tags := []

end FleetPlan
