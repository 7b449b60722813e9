import FleetPlan.Proofs.FleetRuns
import FleetPlan.Proofs.ManagedForms

/-!
Components are never of the cloud's own.

Groups of either sort keep it so, wherever they are planned.
-/
namespace FleetPlan

open Plan

theorem History.apart_of_forall {t : History} (h : ∀ e ∈ t, Apart [e]) : t.Apart := by
  intro a ha
  obtain ⟨e, he, hea⟩ := List.mem_filterMap.mp ha
  exact h e he a (List.mem_filterMap.mpr ⟨e, .head _, hea⟩)

theorem Event.apart_of_silent {e : Event} (h : e.attempt? = none) : History.Apart [e] := by
  intro a ha
  simp [History.attempts, h] at ha

theorem Event.IsSupport.apart {e : Event} (h : e.IsSupport) : History.Apart [e] := by
  intro a ha hcomponent
  obtain ⟨e', he, hea⟩ := List.mem_filterMap.mp ha
  rw [List.mem_singleton.mp he] at hea
  cases (h a hea).2.symm.trans hcomponent

namespace Fleet

variable {name : String} {x : ClusterInput} {s : Site} {f : Fleet} {form : GroupForm}
  {placement : Placement} {d : FleetDrafts} {here : Site}

theorem AreAt.apart (h : f.AreAt name x placement s d here) (hpast : s.past.Apart) :
    here.past.Apart := by
  obtain ⟨t, ht, support⟩ := h.exists_support
  rw [ht]
  exact History.apart_append hpast (History.apart_of_forall fun e he => (support e he).apart)

theorem apart_self (past : History) : History.Apart [(f.self name).event past] := by
  refine Draft.apart_event (fun _ => ?_) past
  cases f <;> (simp only [self, groupSelf, Draft.ref, selfType, ResourceRef.isOfCloud]; decide)

theorem apart_site (hpast : s.past.Apart) : (form.site (f.self name) s).past.Apart := by
  cases form with
  | placed _ => exact hpast
  | component _ => exact History.apart_append hpast (apart_self s.past)

/-- Whatever happens when a group of one's own is planned, no resource of the cloud's own becomes a
component. -/
theorem apart_history (name : String) (x : ClusterInput) (s : Site) (f : Fleet)
    (form : GroupForm) : (f.history name x s form).Apart := by
  have planned {placement : Placement} {here : Site} {e : Event}
      (h : e ∈ f.run name x placement here) : History.Apart [e] := by
    rcases of_mem_run h with support | ⟨d, there, at_, _, rfl | rfl⟩
    · exact support.apart
    · exact Draft.apart_event_of_custom at_.serves.machineCustom _
    · exact Draft.apart_event_of_custom (at_.serves.scalerCustom _) _
  refine History.apart_of_forall fun e he => ?_
  cases form with
  | placed placement => exact planned he
  | component provider =>
      rcases of_mem_componentRun he with rfl | run | silent
      · exact apart_self s.past
      · exact planned run
      · exact Event.apart_of_silent silent

end Fleet

theorem ManagedGroup.apart_history (name : String) (x : ClusterInput) (o : ManagedOptions)
    (s : Site) (form : GroupForm) : (history name x o s form).Apart := by
  have planned {placement : Placement} {here : Site} {e : Event}
      (h : e ∈ (create name x o placement here).trace) : History.Apart [e] := by
    rw [mem_trace_create h]
    exact Draft.apart_event_of_custom rfl _
  refine History.apart_of_forall fun e he => ?_
  cases form with
  | placed placement => exact planned he
  | component provider =>
      rcases mem_trace_componentPlan he with rfl | run | silent
      · refine Draft.apart_event (fun _ => ?_) s.past
        simp only [groupSelf, Draft.ref, componentType, ResourceRef.isOfCloud]
        decide
      · exact planned run
      · exact Event.apart_of_silent silent

end FleetPlan
