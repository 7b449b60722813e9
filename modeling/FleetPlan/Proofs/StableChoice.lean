import FleetPlan.Proofs.WorkerPlacement
import Mathlib.Data.List.Perm.Basic

/-!
The choice of subnets under every lookup of routes.

A subnet is inside or not by its own routes alone, so the choice is a filter of the given subnets or all
of them: it does not depend on their order, and choosing again changes nothing. The lookups are those
of the subnets in order, up to the first that fails. A lookup may leave any trace; nothing is said about
lookups that depend on one another.
-/
namespace FleetPlan

variable {σ γ ε : Type}

section Lookup

variable (routesOf : σ → Traced γ (Except ε (List Route)))

/-- A subnet whose routes are found. -/
def IsServed (id : σ) : Prop := ∃ routes, (routesOf id).answer = .ok routes

/-- A subnet whose routes are found, and none of them is to an internet gateway. -/
def isInside (id : σ) : Bool :=
  match (routesOf id).answer with
  | .ok routes => !hasPublicRoute routes
  | .error _ => false

end Lookup

variable {routesOf : σ → Traced γ (Except ε (List Route))}

theorem isInside_eq_true {id : σ} : isInside routesOf id = true ↔
    ∃ routes, (routesOf id).answer = .ok routes ∧ hasPublicRoute routes = false := by
  unfold isInside
  cases (routesOf id).answer with
  | ok routes => simp
  | error e => simp

/-- Whatever routes are added, those that made a table public are still there. -/
theorem hasPublicRoute_of_subset {routes more : List Route} (h : routes ⊆ more)
    (outside : hasPublicRoute routes = true) : hasPublicRoute more = true := by
  obtain ⟨r, hr, leads⟩ := List.any_eq_true.mp outside
  exact List.any_eq_true.mpr ⟨r, h hr, leads⟩

/-- Those of some subnets that are inside, or all of them when none is. -/
def insideOrAll (inside : σ → Bool) (ids : List σ) : List σ :=
  if ∃ id ∈ ids, inside id = true then ids.filter inside else ids

section Choice

variable {inside : σ → Bool} {ids ids' : List σ}

theorem insideOrAll_of_exists (h : ∃ id ∈ ids, inside id = true) :
    insideOrAll inside ids = ids.filter inside := if_pos h

theorem insideOrAll_of_forall (h : ∀ id ∈ ids, inside id = false) :
    insideOrAll inside ids = ids := by
  refine if_neg ?_
  rintro ⟨id, hid, yes⟩
  rw [h id hid] at yes
  cases yes

theorem exists_or_forall (inside : σ → Bool) (ids : List σ) :
    (∃ id ∈ ids, inside id = true) ∨ ∀ id ∈ ids, inside id = false := by
  by_cases h : ∃ id ∈ ids, inside id = true
  · exact .inl h
  · exact .inr (by simpa using h)

theorem perm_insideOrAll (h : ids'.Perm ids) :
    (insideOrAll inside ids').Perm (insideOrAll inside ids) := by
  rcases exists_or_forall inside ids with ⟨id, hid, yes⟩ | none
  · rw [insideOrAll_of_exists ⟨id, hid, yes⟩, insideOrAll_of_exists ⟨id, h.mem_iff.mpr hid, yes⟩]
    exact h.filter inside
  · rw [insideOrAll_of_forall none, insideOrAll_of_forall fun id hid => none id (h.mem_iff.mp hid)]
    exact h

theorem insideOrAll_insideOrAll (inside : σ → Bool) (ids : List σ) :
    insideOrAll inside (insideOrAll inside ids) = insideOrAll inside ids := by
  rcases exists_or_forall inside ids with ⟨id, hid, yes⟩ | none
  · rw [insideOrAll_of_exists ⟨id, hid, yes⟩,
      insideOrAll_of_exists ⟨id, List.mem_filter.mpr ⟨hid, yes⟩, yes⟩, List.filter_filter]
    simp only [Bool.and_self]
  · rw [insideOrAll_of_forall none, insideOrAll_of_forall none]

/-- What is chosen among some subnets, given which of them are inside. -/
structure IsChoice [DecidableEq σ] (inside : σ → Bool) (ids chosen : List σ) : Prop where
  ordered : chosen.Sublist ids
  /-- A subnet is chosen as often as it is given, or not at all. -/
  whole : ∀ id ∈ chosen, chosen.count id = ids.count id
  nonempty : chosen = [] → ids = []
  /-- All that are inside and nothing else, or everything when none is inside. -/
  kind : (∀ id, id ∈ chosen ↔ id ∈ ids ∧ inside id = true) ∨
    (∀ id ∈ ids, inside id = false) ∧ chosen = ids

theorem isChoice_insideOrAll [DecidableEq σ] (inside : σ → Bool) (ids : List σ) :
    IsChoice inside ids (insideOrAll inside ids) := by
  rcases exists_or_forall inside ids with ⟨id, hid, yes⟩ | none
  · rw [insideOrAll_of_exists ⟨id, hid, yes⟩]
    have chosen : id ∈ ids.filter inside := List.mem_filter.mpr ⟨hid, yes⟩
    exact {
      ordered := List.filter_sublist
      whole := fun id hid => List.count_filter (List.mem_filter.mp hid).2
      nonempty := fun none => absurd chosen (none ▸ List.not_mem_nil)
      kind := .inl fun id => List.mem_filter }
  · rw [insideOrAll_of_forall none]
    exact {
      ordered := List.Sublist.refl ids
      whole := fun _ _ => rfl
      nonempty := fun none => none
      kind := .inr ⟨none, rfl⟩ }

end Choice

section Runs

variable {ids : List σ}

/-- When all subnets are served, each is looked up in its place and the choice is made among them. -/
theorem workerSubnets_of_served (h : ∀ id ∈ ids, IsServed routesOf id) :
    workerSubnets routesOf ids = ⟨.ok (insideOrAll (isInside routesOf) ids),
      ids.flatMap fun id => (routesOf id).trace⟩ := by
  have classified : ∀ id ∈ ids, ∃ routes, (routesOf id).answer = .ok routes ∧
      hasPublicRoute routes = !isInside routesOf id := by
    intro id hid
    obtain ⟨routes, found⟩ := h id hid
    exact ⟨routes, found, by simp [isInside, found]⟩
  show Traced.mk (workerSubnets routesOf ids).answer (workerSubnets routesOf ids).trace = _
  rw [answer_workerSubnets, trace_workerSubnets, classifySubnets_of_routes classified]
  simp only [Except.map, Classified.chosen_filter, insideOrAll]

theorem workerSubnets_of_first_error {before after : List σ} {id : σ} {e : ε}
    (h : ∀ x ∈ before, IsServed routesOf x) (he : (routesOf id).answer = .error e) :
    workerSubnets routesOf (before ++ id :: after) =
      ⟨.error e, (before ++ [id]).flatMap fun x => (routesOf x).trace⟩ := by
  show Traced.mk (workerSubnets routesOf _).answer (workerSubnets routesOf _).trace = _
  rw [answer_workerSubnets, trace_workerSubnets, classifySubnets_of_first_error h he]
  rfl

theorem exists_first_error (h : ∃ id ∈ ids, ¬IsServed routesOf id) :
    ∃ before id after e, ids = before ++ id :: after ∧
      (∀ x ∈ before, IsServed routesOf x) ∧ (routesOf id).answer = .error e := by
  induction ids with
  | nil =>
      obtain ⟨id, hid, _⟩ := h
      cases hid
  | cons id ids ih =>
      cases answer : (routesOf id).answer with
      | error e => exact ⟨[], id, ids, e, rfl, List.forall_mem_nil _, answer⟩
      | ok routes =>
          have served : IsServed routesOf id := ⟨routes, answer⟩
          have later : ∃ x ∈ ids, ¬IsServed routesOf x := by
            obtain ⟨x, hx, lost⟩ := h
            rcases List.mem_cons.mp hx with rfl | hx
            · exact absurd served lost
            · exact ⟨x, hx, lost⟩
          obtain ⟨before, x, after, e, rfl, all, he⟩ := ih later
          exact ⟨id :: before, x, after, e, rfl, List.forall_mem_cons.mpr ⟨served, all⟩, he⟩

/-- A choice is made only among subnets that are all served. -/
theorem served_of_answer {chosen : List σ}
    (h : (workerSubnets routesOf ids).answer = .ok chosen) :
    ∀ id ∈ ids, IsServed routesOf id := by
  by_contra unserved
  have lost : ∃ id ∈ ids, ¬IsServed routesOf id := by simpa using unserved
  obtain ⟨before, id, after, e, rfl, served, he⟩ := exists_first_error lost
  rw [workerSubnets_of_first_error served he] at h
  cases h

/-- More routes in the table of a subnet leave it outside, if it is outside. -/
theorem isInside_of_wider {wider : σ → Traced γ (Except ε (List Route))} {id : σ}
    {routes more : List Route} (found : (routesOf id).answer = .ok routes)
    (widened : (wider id).answer = .ok more) (h : routes ⊆ more) (inside : isInside wider id = true) :
    isInside routesOf id = true := by
  obtain ⟨more', found', none⟩ := isInside_eq_true.mp inside
  obtain rfl := Except.ok.inj (widened.symm.trans found')
  refine isInside_eq_true.mpr ⟨routes, found, Bool.eq_false_iff.mpr fun outside => ?_⟩
  rw [hasPublicRoute_of_subset h outside] at none
  cases none

end Runs

/-- What the choice among some subnets is in every order of them, and what is looked up for it. -/
structure ChoosesStably [DecidableEq σ] (routesOf : σ → Traced γ (Except ε (List Route)))
    (ids : List σ) : Prop where
  /-- One lookup for each subnet, in the given order, leads to a choice. -/
  chosen : (∀ id ∈ ids, IsServed routesOf id) → ∃ chosen,
    workerSubnets routesOf ids = ⟨.ok chosen, ids.flatMap fun id => (routesOf id).trace⟩ ∧
      IsChoice (isInside routesOf) ids chosen
  reordered : ∀ chosen, (workerSubnets routesOf ids).answer = .ok chosen → ∀ ids', ids'.Perm ids →
    ∃ chosen', (workerSubnets routesOf ids').answer = .ok chosen' ∧ chosen'.Perm chosen
  repeated : ∀ chosen, (workerSubnets routesOf ids).answer = .ok chosen →
    (workerSubnets routesOf chosen).answer = .ok chosen
  /-- A subnet that is not served ends the choice in every order, at the first such subnet. -/
  stopped : (∃ id ∈ ids, ¬IsServed routesOf id) → ∀ ids', ids'.Perm ids →
    ∃ before id after e, ids' = before ++ id :: after ∧ (∀ x ∈ before, IsServed routesOf x) ∧
      (routesOf id).answer = .error e ∧ workerSubnets routesOf ids' =
        ⟨.error e, (before ++ [id]).flatMap fun x => (routesOf x).trace⟩
  /-- No subnet comes inside by routes that are added to its table. -/
  widened : ∀ wider : σ → Traced γ (Except ε (List Route)), ∀ id routes more,
    (routesOf id).answer = .ok routes → (wider id).answer = .ok more → routes ⊆ more →
      isInside wider id = true → isInside routesOf id = true

/-- Subnets are chosen stably, whatever lookup there is. -/
theorem choosesStably_workerSubnets [DecidableEq σ]
    (routesOf : σ → Traced γ (Except ε (List Route))) (ids : List σ) :
    ChoosesStably routesOf ids where
  chosen served := ⟨_, workerSubnets_of_served served, isChoice_insideOrAll _ ids⟩
  reordered := by
    intro chosen h ids' perm
    have served := served_of_answer h
    have served' : ∀ id ∈ ids', IsServed routesOf id := fun id hid =>
      served id (perm.mem_iff.mp hid)
    rw [workerSubnets_of_served served] at h
    obtain rfl := Except.ok.inj h
    rw [workerSubnets_of_served served']
    exact ⟨_, rfl, perm_insideOrAll perm⟩
  repeated := by
    intro chosen h
    have served := served_of_answer h
    rw [workerSubnets_of_served served] at h
    obtain rfl := Except.ok.inj h
    -- What is chosen is among the given subnets, so all of it is served as well.
    have among := (isChoice_insideOrAll (isInside routesOf) ids).ordered.subset
    rw [workerSubnets_of_served fun id hid => served id (among hid), insideOrAll_insideOrAll]
  stopped := by
    rintro ⟨id, hid, lost⟩ ids' perm
    obtain ⟨before, id, after, e, rfl, served, he⟩ :=
      exists_first_error ⟨id, perm.mem_iff.mpr hid, lost⟩
    exact ⟨before, id, after, e, rfl, served, he, workerSubnets_of_first_error served he⟩
  widened _ _ _ _ found widened h inside := isInside_of_wider found widened h inside

end FleetPlan
