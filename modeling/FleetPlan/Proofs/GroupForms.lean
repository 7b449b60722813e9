import FleetPlan.Proofs.Settling

/-!
Groups planned at a placement and groups planned as components.

A component is checked and registered before its group is planned below it, and makes itself known
last; so what happens to the group's own resources is the same in both forms, at different sites.
-/
namespace FleetPlan

/-- How the attempts to register a resource ended, in order: with nothing, or with a failure. -/
def History.verdicts (past : History) (ref : ResourceRef) : List (Option Failure) :=
  (past.attempts.filter fun a => a.ref = ref).map Attempt.failure

namespace History

theorem verdicts_append (past more : History) (ref : ResourceRef) :
    (past ++ more).verdicts ref = past.verdicts ref ++ more.verdicts ref := by
  rw [verdicts, attempts_append, List.filter_append, List.map_append]
  rfl

theorem verdicts_eq_nil {past : History} {ref : ResourceRef}
    (h : ∀ e ∈ past, ∀ a, e.attempt? = some a → a.ref ≠ ref) : past.verdicts ref = [] := by
  rw [verdicts, List.map_eq_nil_iff, List.filter_eq_nil_iff]
  intro a ha
  obtain ⟨e, he, hea⟩ := List.mem_filterMap.mp ha
  simpa using h e he a hea

theorem verdicts_event (d : Draft) (past : History) (ref : ResourceRef) :
    verdicts [d.event past] ref = if d.ref = ref then [(d.attempt past).failure] else [] := by
  rw [verdicts, Draft.attempts_event]
  by_cases h : d.ref = ref
  · simp [h, Draft.attempt]
  · simp [h, Draft.attempt]

theorem mem_verdicts {past : History} {ref : ResourceRef} {v : Option Failure} :
    v ∈ past.verdicts ref ↔ ∃ e ∈ past, ∃ a, e.attempt? = some a ∧ a.ref = ref ∧ a.failure = v := by
  rw [verdicts, List.mem_map]
  constructor
  · rintro ⟨a, ha, rfl⟩
    obtain ⟨hmem, href⟩ := List.mem_filter.mp ha
    obtain ⟨e, he, hea⟩ := List.mem_filterMap.mp hmem
    exact ⟨e, he, a, hea, of_decide_eq_true href, rfl⟩
  · rintro ⟨e, he, a, hea, href, rfl⟩
    exact ⟨a, List.mem_filter.mpr ⟨List.mem_filterMap.mpr ⟨e, he, hea⟩, decide_eq_true href⟩, rfl⟩

theorem exists_registered {past : History} {ref : ResourceRef}
    (h : none ∈ past.verdicts ref) : ∃ r, .registered r ∈ past ∧ r.ref = ref := by
  obtain ⟨e, he, a, hea, href, hfailure⟩ := mem_verdicts.mp h
  cases e with
  | registered r =>
      cases hea
      exact ⟨r, he, href⟩
  | refused _ _ _ _ =>
      cases hea
      cases hfailure
  | asked _ | published _ _ | unpublished _ _ => cases hea

end History

/-- How a group is planned: at a placement, or as a component with a provider. -/
inductive GroupForm where
  | placed (placement : Placement)
  | component (provider : Option Resource)

namespace GroupForm

/-- The placement of a group's own resources, given the component that it may be planned as. -/
def placement (self : Draft) (s : Site) : GroupForm → Placement
  | placed placement => placement
  | component provider => ⟨some (self.resource s), provider⟩

/-- The site where a group's own resources are planned. -/
def site (self : Draft) (s : Site) : GroupForm → Site
  | placed _ => s
  | component _ => s.after [self.event s.past]

end GroupForm

/-- A component of a group: it stands at the top, and for nothing but what is below it. -/
def groupSelf (type name : String) : Draft where
  type := type
  name := name
  placement := .top
  properties := []
  isComponent := true

/-- A group below a component that is checked and registered first and makes itself known last. -/
def componentPlan {α : Type} (check : Except Failure Unit) (self : Draft)
    (create : Resource → Plan α) (outputs : α → Entries (Deferred Json)) :
    Plan (Resource × α) := do
  Plan.ofExcept check
  let r ← Plan.register self
  let a ← create r
  Plan.publish r (outputs a)
  return (r, a)

section Component

open Plan

variable {α : Type} {check : Except Failure Unit} {type name : String}
  {create : Resource → Plan α} {outputs : α → Entries (Deferred Json)} {s : Site}

theorem settle_groupSelf (past : History) : ∃ r, (groupSelf type name).settle past = .ok r :=
  ⟨_, rfl⟩

theorem named_groupSelf (h : name ≠ "") : (groupSelf type name).Named := ⟨h, rfl⟩

/-- Around what happens to a group, a component is tried, and makes itself known or not. -/
theorem trace_componentPlan (type : String) (create : Resource → Plan α)
    (outputs : α → Entries (Deferred Json)) (s : Site) (hcheck : check = .ok ())
    (hname : name ≠ "") :
    ∃ rest : History, (∀ e ∈ rest, e.attempt? = none ∧ ∀ c, e ≠ .asked c) ∧
      (componentPlan check (groupSelf type name) create outputs s).trace =
        (groupSelf type name).event s.past ::
          (create ((groupSelf type name).resource s)
            (s.after [(groupSelf type name).event s.past])).trace ++ rest := by
  have registered := register_of_named (named_groupSelf hname : (groupSelf type name).Named) s
  have hok : (register (groupSelf type name) s).answer = .ok ((groupSelf type name).resource s) := by
    rw [registered]
  rw [componentPlan, hcheck, ofExcept_ok, pure_bind, bind_of_ok hok, registered]
  cases hc : (create ((groupSelf type name).resource s)
      (s.after [(groupSelf type name).event s.past])).answer with
  | error e =>
      refine ⟨[], List.forall_mem_nil _, ?_⟩
      rw [bind_of_error hc, List.append_nil]
      rfl
  | ok a =>
      rw [bind_of_ok hc, trace_bind_pure _ fun _ => _]
      refine ⟨_, ?_, rfl⟩
      intro e he
      rcases trace_publish _ (outputs a) _ with ⟨v, ht⟩ | ⟨f, ht⟩ <;>
        · rw [ht, List.mem_singleton] at he
          rw [he]
          exact ⟨rfl, fun _ h => nomatch h⟩

theorem trace_componentPlan_nil (h : ¬ (check = .ok () ∧ name ≠ "")) :
    (componentPlan check (groupSelf type name) create outputs s).trace = [] := by
  rw [componentPlan]
  cases hc : check with
  | error e => rfl
  | ok u =>
      have unnamed : ¬ (groupSelf type name).Named := fun hn => h ⟨hc, hn.name⟩
      obtain ⟨e, he⟩ := register_of_not_named unnamed s
      have failed : (register (groupSelf type name) s).answer = .error e := by rw [he]
      rw [ofExcept_ok, pure_bind, bind_of_error failed, he]

theorem mem_trace_componentPlan {e : Event}
    (h : e ∈ (componentPlan check (groupSelf type name) create outputs s).trace) :
    e = (groupSelf type name).event s.past ∨
      e ∈ (create ((groupSelf type name).resource s)
        (s.after [(groupSelf type name).event s.past])).trace ∨ e.attempt? = none := by
  by_cases accepted : check = .ok () ∧ name ≠ ""
  · obtain ⟨rest, hrest, ht⟩ := trace_componentPlan type create outputs s accepted.1 accepted.2
    rw [ht] at h
    rcases List.mem_append.mp h with h | h
    · rcases List.mem_cons.mp h with h | h
      · exact .inl h
      · exact .inr (.inl h)
    · exact .inr (.inr (hrest e h).1)
  · rw [trace_componentPlan_nil accepted] at h
    cases h

theorem verdicts_componentPlan (hcheck : check = .ok ()) (hname : name ≠ "") {ref : ResourceRef}
    (href : (groupSelf type name).ref ≠ ref) :
    History.verdicts (componentPlan check (groupSelf type name) create outputs s).trace ref =
      History.verdicts (create ((groupSelf type name).resource s)
        (s.after [(groupSelf type name).event s.past])).trace ref := by
  obtain ⟨rest, hrest, ht⟩ := trace_componentPlan type create outputs s hcheck hname
  have silent : History.verdicts rest ref = [] := by
    refine History.verdicts_eq_nil fun e he a hea => ?_
    rw [(hrest e he).1] at hea
    cases hea
  rw [ht, ← List.singleton_append, List.append_assoc, History.verdicts_append,
    History.verdicts_append, History.verdicts_event, if_neg href, silent]
  simp

theorem mem_componentPlan (hcheck : check = .ok ()) (hname : name ≠ "") {e : Event}
    (h : e ∈ (create ((groupSelf type name).resource s)
      (s.after [(groupSelf type name).event s.past])).trace) :
    e ∈ (componentPlan check (groupSelf type name) create outputs s).trace := by
  obtain ⟨rest, _, ht⟩ := trace_componentPlan type create outputs s hcheck hname
  rw [ht]
  exact List.mem_append_left _ (.tail _ h)

/-- A group whose plan is carried out is given back beside its component. -/
theorem answer_componentPlan (hcheck : check = .ok ()) (hname : name ≠ "") {a : α}
    (h : (create ((groupSelf type name).resource s)
      (s.after [(groupSelf type name).event s.past])).answer = .ok a) :
    (componentPlan check (groupSelf type name) create outputs s).answer =
      .ok ((groupSelf type name).resource s, a) := by
  have registered := register_of_named (named_groupSelf hname : (groupSelf type name).Named) s
  have hok : (register (groupSelf type name) s).answer = .ok ((groupSelf type name).resource s) := by
    rw [registered]
  have published (t : Site) :
      (publish ((groupSelf type name).resource s) (outputs a) t).answer = .ok () := by
    unfold publish
    cases ((groupSelf type name).resource s).failure? with
    | some e => rfl
    | none => cases settleProperties (outputs a) <;> rfl
  rw [componentPlan, hcheck, ofExcept_ok, Plan.pure_bind, bind_of_ok hok, registered]
  dsimp only
  rw [bind_of_ok h, bind_of_ok (published _)]
  rfl

end Component
end FleetPlan
