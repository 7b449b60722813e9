import FleetPlan.Fleet.NodeSubnets
import FleetPlan.Proofs.PlanRuns

/-!
What is looked up when the subnets of a group are chosen.

Choosing subnets registers nothing and asks only about routes. When the cloud answers what is asked,
there is a choice, and it is made among the given subnets.
-/
namespace FleetPlan

/-- The classification with one more subnet in front. -/
def Classified.add {σ : Type} (isPublic : Bool) (id : σ) (c : Classified σ) : Classified σ :=
  if isPublic then { c with publicIds := id :: c.publicIds }
  else { c with privateIds := id :: c.privateIds }

/-- All subnets of a classification are among the given ones. -/
def Classified.IsAmong {σ : Type} (c : Classified σ) (ids : List σ) : Prop :=
  ∀ id, id ∈ c.privateIds ∨ id ∈ c.publicIds → id ∈ ids

section Classified

variable {σ γ ε : Type} {routesOf : σ → Traced γ (Except ε (List Route))} {id : σ} {ids : List σ}

theorem classifySubnets_of_error {e : ε} (h : (routesOf id).answer = .error e) :
    classifySubnets routesOf (id :: ids) = ⟨.error e, (routesOf id).trace⟩ := by
  simp only [classifySubnets, Bind.bind, Traced.bind, h, Pure.pure, Traced.pure, List.append_nil]

theorem classifySubnets_of_ok {routes : List Route} (h : (routesOf id).answer = .ok routes) :
    classifySubnets routesOf (id :: ids) =
      ⟨(classifySubnets routesOf ids).answer.map (Classified.add (hasPublicRoute routes) id),
        (routesOf id).trace ++ (classifySubnets routesOf ids).trace⟩ := by
  simp only [classifySubnets, Bind.bind, Traced.bind, h]
  cases (classifySubnets routesOf ids).answer with
  | error e => simp only [Pure.pure, Traced.pure, List.append_nil, Except.map]
  | ok c =>
      cases hp : hasPublicRoute routes <;>
        simp [Pure.pure, Traced.pure, Except.map, Classified.add]

theorem mem_trace_classifySubnets {A : γ → Prop} (h : ∀ id, ∀ e ∈ (routesOf id).trace, A e) :
    ∀ e ∈ (classifySubnets routesOf ids).trace, A e := by
  induction ids with
  | nil =>
      intro e he
      cases he
  | cons id ids ih =>
      intro e he
      cases hr : (routesOf id).answer with
      | error _ =>
          rw [classifySubnets_of_error hr] at he
          exact h id e he
      | ok routes =>
          rw [classifySubnets_of_ok hr] at he
          exact (List.mem_append.mp he).elim (h id e) (ih e)

theorem exists_classifySubnets {A : γ → Prop}
    (h : ∀ id, (∀ e ∈ (routesOf id).trace, A e) → ∃ routes, (routesOf id).answer = .ok routes)
    (hA : ∀ e ∈ (classifySubnets routesOf ids).trace, A e) :
    ∃ c, (classifySubnets routesOf ids).answer = .ok c ∧ c.IsAmong ids := by
  induction ids with
  | nil => exact ⟨⟨[], []⟩, rfl, fun _ hid => hid.elim (fun h => h) fun h => h⟩
  | cons id ids ih =>
      obtain ⟨routes, hr⟩ : ∃ routes, (routesOf id).answer = .ok routes := by
        apply h
        intro e he
        apply hA e
        cases hr : (routesOf id).answer with
        | error _ => rwa [classifySubnets_of_error hr]
        | ok routes =>
            rw [classifySubnets_of_ok hr]
            exact List.mem_append_left _ he
      rw [classifySubnets_of_ok hr] at hA ⊢
      obtain ⟨c, hc, among⟩ := ih fun e he => hA e (List.mem_append_right _ he)
      refine ⟨c.add (hasPublicRoute routes) id, by rw [hc]; rfl, fun id' hid' => ?_⟩
      rw [List.mem_cons]
      unfold Classified.add at hid'
      split at hid'
      · rcases hid' with inside | outside
        · exact .inr (among id' (.inl inside))
        · exact (List.mem_cons.mp outside).imp_right fun hid => among id' (.inr hid)
      · rcases hid' with inside | outside
        · exact (List.mem_cons.mp inside).imp_right fun hid => among id' (.inl hid)
        · exact .inr (among id' (.inr outside))

theorem trace_workerSubnets :
    (workerSubnets routesOf ids).trace = (classifySubnets routesOf ids).trace := by
  rw [workerSubnets, Traced.trace_bind]
  cases (classifySubnets routesOf ids).answer with
  | error e => exact List.append_nil _
  | ok c => exact List.append_nil _

theorem answer_workerSubnets :
    (workerSubnets routesOf ids).answer =
      (classifySubnets routesOf ids).answer.map Classified.chosen := by
  rw [workerSubnets, Traced.answer_bind]
  cases (classifySubnets routesOf ids).answer with
  | error e => rfl
  | ok c => rfl

theorem mem_of_mem_chosen {c : Classified σ} (h : c.IsAmong ids) {id : σ} (hid : id ∈ c.chosen) :
    id ∈ ids := by
  unfold Classified.chosen at hid
  split at hid
  · exact h id (.inr hid)
  · exact h id (.inl hid)

end Classified

theorem isRouting_of_routesInEffect {placement : Placement} {s : Site} {subnet : Json} :
    ∀ e ∈ (Plan.routesInEffect placement s subnet).trace,
      ∃ q, e = .asked (Plan.callOf placement (.routing q)) := by
  intro e he
  unfold Plan.routesInEffect at he
  cases hp : placement.server.bind Provider.failure with
  | some f => rw [hp] at he; cases he
  | none =>
      rw [hp] at he
      obtain ⟨q, _, rfl⟩ := List.mem_map.mp he
      exact ⟨_, rfl⟩

theorem mem_trace_tableInEffect {τ : Type} (d : RouteDirectory τ) (subnet : Json) :
    .tableOfSubnet subnet ∈ (d.tableInEffect subnet).trace := by
  rw [RouteDirectory.tableInEffect, Traced.trace_bind]
  exact List.mem_append_left _ (.head _)

theorem exists_routesInEffect {placement : Placement} {s : Site} {subnet : Json}
    (hp : placement.server.bind Provider.failure = none)
    (h : ∀ c, .asked c ∈ (Plan.routesInEffect placement s subnet).trace →
      s.cloud.Answers c.question) :
    ∃ routes, (Plan.routesInEffect placement s subnet).answer = .ok routes := by
  unfold Plan.routesInEffect at h ⊢
  rw [hp] at h ⊢
  obtain ⟨t, ht⟩ := h (Plan.callOf placement (.routing (.tableOfSubnet subnet)))
    (List.mem_map_of_mem (mem_trace_tableInEffect _ _))
  have found : s.cloud.directory.tableOfSubnet subnet = .ok t := by
    simp only [Cloud.directory, Question.refused, ht]
    rfl
  refine ⟨t, ?_⟩
  show (s.cloud.directory.tableInEffect subnet).answer = .ok t
  rw [RouteDirectory.tableInEffect, Traced.answer_bind]
  simp only [RouteDirectory.ask, found]
  rfl

namespace Plan

variable {s : Site}

/-- Whatever happens on the way to a choice is a question about routes. -/
theorem isRouting_of_chooseSubnets {placement : Placement} {ids : List Json} :
    ∀ e ∈ (chooseSubnets placement ids s).trace,
      ∃ q, e = .asked (callOf placement (.routing q)) := by
  intro e he
  rw [chooseSubnets, trace_workerSubnets] at he
  exact mem_trace_classifySubnets (fun _ => isRouting_of_routesInEffect) e he

theorem ensures_chooseSubnets {A : Event → Prop} {placement : Placement}
    (h : ∀ q, A (.asked (callOf placement q))) (ids : List Json) :
    Ensures A (fun _ => True) (chooseSubnets placement ids) s := by
  refine ⟨fun e he => ?_, fun _ _ => trivial⟩
  obtain ⟨q, rfl⟩ := isRouting_of_chooseSubnets e he
  exact h _

theorem succeeds_chooseSubnets {placement : Placement}
    (hp : placement.server.bind Provider.failure = none) (ids : List Json) :
    Succeeds (fun chosen => ∀ id ∈ chosen, id ∈ ids) (chooseSubnets placement ids) s := by
  intro answered
  have asked : ∀ e ∈ (classifySubnets (routesInEffect placement s) ids).trace,
      ∀ c, e = .asked c → s.cloud.Answers c.question := by
    rw [← trace_workerSubnets]
    rintro e he c rfl
    exact answered c he
  obtain ⟨c, hc, among⟩ := exists_classifySubnets
    (A := fun e => ∀ c, e = .asked c → s.cloud.Answers c.question)
    (fun id hid => exists_routesInEffect hp fun c hc => hid _ hc c rfl) asked
  refine ⟨c.chosen, (workerSubnets (routesInEffect placement s) ids).trace, ?_, ?_, ?_⟩
  · rw [chooseSubnets, answer_workerSubnets, hc]
    rfl
  · intro a ha
    obtain ⟨e, he, hea⟩ := List.mem_filterMap.mp ha
    obtain ⟨q, rfl⟩ := isRouting_of_chooseSubnets e he
    cases hea
  · exact fun id hid => mem_of_mem_chosen among hid

theorem firstSet_pure {α : Type} (o : Option α) (sources : List (Unit → Plan (Option α))) :
    firstSet ((fun _ => Pure.pure o) :: sources) =
      match o with
      | some a => Pure.pure (some a)
      | none => firstSet sources := by
  cases o with
  | some a => exact pure_bind _ _
  | none => exact pure_bind _ _

end Plan
end FleetPlan
