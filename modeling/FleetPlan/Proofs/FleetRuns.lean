import FleetPlan.Proofs.FleetForms

/-!
What happens when a group of one's own is planned.

Security groups, their rules and key pairs come first; then the two drafts of the group are tried,
the second behind the first. So a resource of the group that is registered is one of the two drafts as
it was settled there.
-/
namespace FleetPlan.Fleet

open Plan

variable {name : String} {x : ClusterInput} {placement : Placement} {s : Site} {f : Fleet}
  {form : GroupForm} {d : FleetDrafts} {here : Site} {e : Event} {r : Registration}

theorem of_mem_registerBoth (h : e ∈ (registerBoth d s).trace) :
    d.machine.event s.past ∈ (registerBoth d s).trace ∧
      (e = d.machine.event s.past ∨
        e = (d.scaler (d.machine.resource s)).event (s.past ++ [d.machine.event s.past])) := by
  by_cases hm : d.machine.Named
  · have first := register_of_named hm s
    have hok : (register d.machine s).answer = .ok (d.machine.resource s) := by rw [first]
    refine ⟨mem_trace_bind (by rw [first]; exact .head _), ?_⟩
    rcases of_mem_trace_bind h with h | ⟨m, hm, h⟩
    · rw [first] at h
      exact .inl (List.mem_singleton.mp h)
    · rw [hok] at hm
      cases hm
      rw [first, trace_bind_pure] at h
      by_cases hs : (d.scaler (d.machine.resource s)).Named
      · rw [register_of_named hs] at h
        exact .inr (List.mem_singleton.mp h)
      · obtain ⟨_, hfail⟩ := register_of_not_named hs (s.after [d.machine.event s.past])
        rw [hfail] at h
        cases h
  · obtain ⟨_, hfail⟩ := register_of_not_named hm s
    have failed : (register d.machine s).answer = .error _ := congrArg Traced.answer hfail
    rw [registerBoth, bind_of_error failed, hfail] at h
    cases h

/-- The drafts that are made for a group, and the site behind all that is planned before them. -/
structure AreAt (name : String) (x : ClusterInput) (placement : Placement) (s : Site) (f : Fleet)
    (d : FleetDrafts) (here : Site) : Prop where
  drafted : (f.drafts name x.cluster placement s).answer = .ok d
  behind : here = s.after (f.drafts name x.cluster placement s).trace

theorem AreAt.every (_ : f.AreAt name x placement s d here) :
    Ensures Event.IsSupport (fun d => d.Serves name f x.cluster)
      (f.drafts name x.cluster placement) s := ensures_drafts f

theorem AreAt.serves (h : f.AreAt name x placement s d here) : d.Serves name f x.cluster :=
  h.every.2 d h.drafted

/-- Nothing has happened at the site since but what supports the group. -/
theorem AreAt.exists_support (h : f.AreAt name x placement s d here) :
    ∃ t, here.past = s.past ++ t ∧ ∀ e ∈ t, e.IsSupport := by
  rw [h.behind]
  exact ⟨_, rfl, h.every.1⟩

/-- Whatever happens when a group is planned supports it, or tries one of its two drafts. -/
theorem of_mem_run (h : e ∈ f.run name x placement s) :
    e.IsSupport ∨ ∃ d here, f.AreAt name x placement s d here ∧
      d.machine.event here.past ∈ f.run name x placement s ∧
      (e = d.machine.event here.past ∨
        e = (d.scaler (d.machine.resource here)).event
          (here.past ++ [d.machine.event here.past])) := by
  rw [run_eq, plan] at h ⊢
  cases hchecked : f.options.check name with
  | error _ => rw [hchecked] at h; cases h
  | ok _ =>
      rw [hchecked, ofExcept_ok, pure_bind] at h
      rw [ofExcept_ok, pure_bind]
      have every : Ensures Event.IsSupport (fun d => d.Serves name f x.cluster)
          (f.drafts name x.cluster placement) s := ensures_drafts f
      rcases of_mem_trace_bind h with h | ⟨d, hd, h⟩
      · exact .inl (every.1 e h)
      · obtain ⟨machine, tried⟩ := of_mem_registerBoth h
        exact .inr ⟨d, _, ⟨hd, rfl⟩, mem_trace_bind_right hd machine, tried⟩

theorem AreAt.machine_settles (h : f.AreAt name x placement s d here)
    (hr : (d.scaler (d.machine.resource here)).settle
      (here.past ++ [d.machine.event here.past]) = .ok r) :
    ∃ m, d.machine.settle here.past = .ok m := by
  obtain ⟨key, p, hp, starts, _⟩ := h.serves.machine (d.machine.resource here)
  obtain ⟨v, hv⟩ := Draft.outcome_of_settle hr hp
  obtain ⟨_, hout⟩ := starts.exists_ok hv
  cases hm : d.machine.settle here.past with
  | ok m => exact ⟨m, rfl⟩
  | error e =>
      have fails : (d.machine.resource here).outputs = .error e := by rw [Draft.resource, hm]; rfl
      rw [Resource.outcome_output fails] at hout
      cases hout

theorem drafts_of_registered (h : .registered r ∈ f.history name x s form)
    (href : r.ref ∈ f.refs name) :
    ∃ d here, f.AreAt name x (form.placement (f.self name) s) (form.site (f.self name) s) d here ∧
      d.machine.event here.past ∈ f.history name x s form ∧
      (r.ref = f.machineRef name ∧ d.machine.settle here.past = .ok r ∨
        r.ref = f.scalerRef name ∧ (d.scaler (d.machine.resource here)).settle
          (here.past ++ [d.machine.event here.past]) = .ok r) := by
  obtain ⟨hrun, within⟩ := of_registered_history h href
  rcases of_mem_run hrun with support | ⟨d, here, at_, machine, tried | tried⟩
  · exact absurd (type_mem_types href) (supportTypes_disjoint _ (support _ rfl).1)
  · have settled := Draft.settle_of_event tried
    have own := (Draft.ref_of_settle settled).trans at_.serves.machineRef
    exact ⟨d, here, at_, within _ machine, .inl ⟨own, settled⟩⟩
  · have settled := Draft.settle_of_event tried
    have own := (Draft.ref_of_settle settled).trans (at_.serves.scalerRef _)
    exact ⟨d, here, at_, within _ machine, .inr ⟨own, settled⟩⟩

end FleetPlan.Fleet
