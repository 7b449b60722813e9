import FleetPlan.Proofs.FleetDrafts
import FleetPlan.Proofs.GroupForms

/-!
Groups of one's own in either form.

Whether a group is planned at a placement or as a component, what happens to its two resources
happens where they are planned, and nothing is said of either before its draft is made.
-/
namespace FleetPlan

namespace Fleet

/-- The type of the component that a group is planned as. -/
def selfType : Fleet → String
  | stack _ => StackGroup.componentType
  | template _ => TemplateGroup.componentType

/-- The component that a group is planned as. -/
def self (name : String) (f : Fleet) : Draft := groupSelf f.selfType name

/-- What happens when a group is planned in one form or the other. -/
def history (name : String) (x : ClusterInput) (s : Site) (f : Fleet) : GroupForm → History
  | .placed placement => f.run name x placement s
  | .component provider => f.componentRun name x provider s

/-- The two resources of a group: the description of its machines and what scales them. -/
def refs (name : String) (f : Fleet) : List ResourceRef := [f.machineRef name, f.scalerRef name]

/-- The types of the two resources, of either sort. -/
def types : List String := [
  "aws:ec2/launchConfiguration:LaunchConfiguration", "aws:cloudformation/stack:Stack",
  "aws:ec2/launchTemplate:LaunchTemplate", "aws:autoscaling/group:Group"]

variable {name : String} {x : ClusterInput} {s : Site} {f : Fleet} {form : GroupForm}

theorem type_mem_types {ref : ResourceRef} (h : ref ∈ f.refs name) : ref.type ∈ types := by
  cases f with
  | stack o =>
      simp only [refs, List.mem_cons, List.not_mem_nil, or_false] at h
      rcases h with rfl | rfl
      · exact .head _
      · exact .tail _ (.head _)
  | template o =>
      simp only [refs, List.mem_cons, List.not_mem_nil, or_false] at h
      rcases h with rfl | rfl
      · exact .tail _ (.tail _ (.head _))
      · exact .tail _ (.tail _ (.tail _ (.head _)))

theorem machineRef_ne_scalerRef (name : String) (f : Fleet) : f.machineRef name ≠ f.scalerRef name := by
  intro h
  have types : (f.machineRef name).type = (f.scalerRef name).type := by rw [h]
  revert types
  cases f <;> (simp only [machineRef, scalerRef]; decide)

theorem selfType_not_mem_types (f : Fleet) : f.selfType ∉ types := by
  cases f <;> (simp only [selfType]; decide)

theorem supportTypes_disjoint : ∀ t ∈ supportTypes, t ∉ types := by decide

theorem self_ne {ref : ResourceRef} (h : ref ∈ f.refs name) : (f.self name).ref ≠ ref := by
  rintro rfl
  exact selfType_not_mem_types f (type_mem_types h)

theorem verdicts_history (hchecked : f.options.check name = .ok ()) (hname : name ≠ "")
    {ref : ResourceRef} (href : ref ∈ f.refs name) :
    (f.history name x s form).verdicts ref =
      (f.run name x (form.placement (f.self name) s) (form.site (f.self name) s)).verdicts ref := by
  cases form with
  | placed placement => rfl
  | component provider =>
      cases f with
      | stack o => exact verdicts_componentPlan hchecked hname (self_ne href)
      | template o => exact verdicts_componentPlan hchecked hname (self_ne href)

theorem mem_history (hchecked : f.options.check name = .ok ()) (hname : name ≠ "") {e : Event}
    (h : e ∈ f.run name x (form.placement (f.self name) s) (form.site (f.self name) s)) :
    e ∈ f.history name x s form := by
  cases form with
  | placed placement => exact h
  | component provider =>
      cases f with
      | stack o => exact mem_componentPlan hchecked hname h
      | template o => exact mem_componentPlan hchecked hname h

theorem componentRun_nil {provider : Option Resource}
    (h : ¬ (f.options.check name = .ok () ∧ name ≠ "")) :
    f.componentRun name x provider s = [] := by
  cases f with
  | stack o => exact trace_componentPlan_nil h
  | template o => exact trace_componentPlan_nil h

theorem of_mem_componentRun {provider : Option Resource} {e : Event}
    (h : e ∈ f.componentRun name x provider s) :
    e = (f.self name).event s.past ∨
      e ∈ f.run name x ((GroupForm.component provider).placement (f.self name) s)
        ((GroupForm.component provider).site (f.self name) s) ∨ e.attempt? = none := by
  cases f with
  | stack o => exact mem_trace_componentPlan h
  | template o => exact mem_trace_componentPlan h

theorem of_registered_history {r : Registration} (h : .registered r ∈ f.history name x s form)
    (href : r.ref ∈ f.refs name) :
    .registered r ∈ f.run name x (form.placement (f.self name) s) (form.site (f.self name) s) ∧
      ∀ e ∈ f.run name x (form.placement (f.self name) s) (form.site (f.self name) s),
        e ∈ f.history name x s form := by
  cases form with
  | placed placement => exact ⟨h, fun _ he => he⟩
  | component provider =>
      by_cases accepted : f.options.check name = .ok () ∧ name ≠ ""
      · refine ⟨?_, fun e he => mem_history accepted.1 accepted.2 he⟩
        rcases of_mem_componentRun h with own | planned | silent
        · have same := Draft.ref_of_settle (Draft.settle_of_event own)
          exact absurd same.symm (self_ne href)
        · exact planned
        · cases silent
      · rw [history, componentRun_nil accepted] at h
        cases h

theorem verdicts_support {t : History} (ht : ∀ e ∈ t, e.IsSupport) {ref : ResourceRef}
    (h : ref ∈ f.refs name) : t.verdicts ref = [] := by
  refine History.verdicts_eq_nil fun e he a hea => ?_
  rintro rfl
  exact supportTypes_disjoint _ (ht e he a hea).1 (type_mem_types h)

end Fleet
end FleetPlan
