import FleetPlan.Cluster.Input
import FleetPlan.Proofs.DeferredValues

/-!
What comes of each thing that is given where a cluster is wanted.

Only the deferrals around an input matter to it, and around what an object holds. A description is
found below any number of them. Whatever else lies below the first ones is refused by the name of its
kind; but what lies below those that an object holds is passed on as it is, a description or not.
-/
namespace FleetPlan.ClusterInput

/-- The input without the deferrals around it. -/
def bare : ClusterInput → ClusterInput
  | later _ x => x.bare
  | x => x

/-- Neither a description nor anything deferred. -/
def isInert : ClusterInput → Bool
  | holder _ _ | other _ => true
  | _ => false

/-- A description, or an object that holds one, below deferrals. -/
def Describes (x : ClusterInput) (c : Cluster) : Prop :=
  x.bare = descriptor c ∨ ∃ kind y, x.bare = holder kind y ∧ y.bare = descriptor c

/-- A value of this kind below deferrals, which holds nothing or holds at once what is no
description. -/
def IsRefusedAs (x : ClusterInput) (kind : String) : Prop :=
  x.bare = other kind ∨ ∃ y, x.bare = holder kind y ∧ y.isInert

/-- An object that holds later what is no description. -/
def PassesOn (x y : ClusterInput) : Prop :=
  ∃ kind sources z, x.bare = holder kind (later sources z) ∧ z.bare = y ∧ y.isInert

/-- A failure in the place of what is deferred. -/
def FailsWith (x : ClusterInput) (e : Failure) : Prop :=
  (∃ sources, x.bare = failed sources e) ∨
    ∃ kind y sources, x.bare = holder kind y ∧ y.bare = failed sources e

theorem bare_ne_later (x : ClusterInput) (sources : List ResourceRef) (y : ClusterInput) :
    x.bare ≠ later sources y := by
  induction x with
  | later _ _ ih => exact ih
  | descriptor _ | holder _ _ | failed _ _ | other _ => simp [bare]

theorem settle_outcome (x : ClusterInput) : x.settle.outcome = x.bare.settle.outcome := by
  induction x with
  | later _ _ ih => exact ih
  | descriptor _ | holder _ _ | failed _ _ | other _ => rfl

/-- Deferrals around an input are of no account to what it resolves to. -/
theorem resolve_outcome_bare (x : ClusterInput) : x.resolve.outcome = x.bare.resolve.outcome := by
  simp only [resolve, Deferred.outcome_bind, settle_outcome x]

/-- What an object holds is resolved as if it stood alone, except that what is inert and deferred is
passed on. -/
theorem resolve_outcome_holder (kind : String) (y : ClusterInput) :
    (holder kind y).resolve.outcome =
      if y.isInert then .error (.notACluster kind) else y.settle.outcome := by
  cases y <;> rfl

theorem resolve_of_describes {x : ClusterInput} {c : Cluster} (h : x.Describes c) :
    x.resolve.outcome = .ok (descriptor c) := by
  rw [resolve_outcome_bare]
  obtain hx | ⟨kind, y, hx, hy⟩ := h
  · rw [hx]
    rfl
  · have hinert : y.isInert = false := by cases y <;> first | rfl | simp [bare] at hy
    rw [hx, resolve_outcome_holder, hinert, settle_outcome, hy]
    rfl

theorem resolve_of_isRefusedAs {x : ClusterInput} {kind : String} (h : x.IsRefusedAs kind) :
    x.resolve.outcome = .error (.notACluster kind) := by
  rw [resolve_outcome_bare]
  obtain hx | ⟨y, hx, hy⟩ := h
  · rw [hx]
    rfl
  · rw [hx, resolve_outcome_holder, if_pos hy]

theorem resolve_of_passesOn {x y : ClusterInput} (h : x.PassesOn y) :
    x.resolve.outcome = .ok y := by
  obtain ⟨kind, sources, z, hx, rfl, hy⟩ := h
  have settled : z.bare.settle.outcome = .ok z.bare := by
    cases hz : z.bare with
    | holder _ _ | other _ => rfl
    | descriptor _ | later _ _ | failed _ _ => simp [hz, isInert] at hy
  rw [resolve_outcome_bare, hx, resolve_outcome_holder, ← settled, ← settle_outcome]
  rfl

theorem resolve_of_failsWith {x : ClusterInput} {e : Failure} (h : x.FailsWith e) :
    x.resolve.outcome = .error e := by
  rw [resolve_outcome_bare]
  obtain ⟨sources, hx⟩ | ⟨kind, y, sources, hx, hy⟩ := h
  · rw [hx]
    rfl
  · have hinert : y.isInert = false := by cases y <;> first | rfl | simp [bare] at hy
    rw [hx, resolve_outcome_holder, hinert, settle_outcome, hy]
    rfl

/-- What an object holds is a description, a failure or inert, below deferrals or not. -/
theorem cases_of_holder {x y : ClusterInput} {kind : String} (hx : x.bare = holder kind y) :
    (∃ c, x.Describes c) ∨ (∃ kind, x.IsRefusedAs kind) ∨ (∃ z, x.PassesOn z) ∨
      ∃ e, x.FailsWith e := by
  cases hy : y.bare with
  | later sources z => exact absurd hy (bare_ne_later y sources z)
  | descriptor c => exact .inl ⟨c, .inr ⟨kind, y, hx, hy⟩⟩
  | failed sources e => exact .inr (.inr (.inr ⟨e, .inr ⟨kind, y, sources, hx, hy⟩⟩))
  | holder _ _ | other _ =>
      -- Only the object itself looks at what it holds, so a deferral makes the difference.
      cases y with
      | later sources z => exact .inr (.inr (.inl ⟨_, kind, sources, z, hx, hy, rfl⟩))
      | holder _ _ | other _ => exact .inr (.inl ⟨kind, .inr ⟨_, hx, rfl⟩⟩)
      | descriptor _ | failed _ _ => simp [bare] at hy

theorem resolve_cases (x : ClusterInput) :
    (∃ c, x.Describes c) ∨ (∃ kind, x.IsRefusedAs kind) ∨ (∃ y, x.PassesOn y) ∨
      ∃ e, x.FailsWith e := by
  cases hx : x.bare with
  | later sources y => exact absurd hx (bare_ne_later x sources y)
  | descriptor c => exact .inl ⟨c, .inl hx⟩
  | other kind => exact .inr (.inl ⟨kind, .inl hx⟩)
  | failed sources e => exact .inr (.inr (.inr ⟨e, .inl ⟨sources, hx⟩⟩))
  | holder kind y => exact cases_of_holder hx

theorem resolve_eq_ok (x y : ClusterInput) :
    x.resolve.outcome = .ok y ↔ (∃ c, y = descriptor c ∧ x.Describes c) ∨ x.PassesOn y := by
  constructor
  · intro h
    obtain ⟨c, hc⟩ | ⟨kind, hk⟩ | ⟨z, hz⟩ | ⟨e, he⟩ := x.resolve_cases
    · exact .inl ⟨c, Except.ok.inj (h.symm.trans (resolve_of_describes hc)), hc⟩
    · exact nomatch h.symm.trans (resolve_of_isRefusedAs hk)
    · exact .inr (Except.ok.inj (h.symm.trans (resolve_of_passesOn hz)) ▸ hz)
    · exact nomatch h.symm.trans (resolve_of_failsWith he)
  · rintro (⟨c, rfl, hc⟩ | hy)
    · exact resolve_of_describes hc
    · exact resolve_of_passesOn hy

theorem resolve_eq_error (x : ClusterInput) (e : Failure) :
    x.resolve.outcome = .error e ↔
      (∃ kind, e = .notACluster kind ∧ x.IsRefusedAs kind) ∨ x.FailsWith e := by
  constructor
  · intro h
    obtain ⟨c, hc⟩ | ⟨kind, hk⟩ | ⟨z, hz⟩ | ⟨e', he⟩ := x.resolve_cases
    · exact nomatch h.symm.trans (resolve_of_describes hc)
    · exact .inl ⟨kind, Except.error.inj (h.symm.trans (resolve_of_isRefusedAs hk)), hk⟩
    · exact nomatch h.symm.trans (resolve_of_passesOn hz)
    · exact .inr (Except.error.inj (h.symm.trans (resolve_of_failsWith he)) ▸ he)
  · rintro (⟨kind, rfl, hk⟩ | he)
    · exact resolve_of_isRefusedAs hk
    · exact resolve_of_failsWith he

/-- An input resolves to a description exactly if it describes one, to anything else exactly if an
object holds that later, and otherwise it fails: by the name of the kind of what is refused, or as
something deferred fails. -/
theorem resolve_outcome_iff (x : ClusterInput) :
    (∀ y, x.resolve.outcome = .ok y ↔ (∃ c, y = descriptor c ∧ x.Describes c) ∨ x.PassesOn y) ∧
      ∀ e, x.resolve.outcome = .error e ↔
        (∃ kind, e = .notACluster kind ∧ x.IsRefusedAs kind) ∨ x.FailsWith e :=
  ⟨x.resolve_eq_ok, x.resolve_eq_error⟩

/-- An object whose description is a deferred text resolves to the text. -/
theorem deferred_text_passed_on :
    let x := holder "Cluster" (.ofData ⟨.ok (.text "hello"), [⟨"eks:index:Cluster", "main"⟩]⟩)
    x.resolve.outcome = .ok (other "str") ∧ (¬ ∃ c, x.resolve.outcome = .ok (descriptor c)) ∧
      x.resolve.outcome ≠ .error (.notACluster "str") := by
  refine ⟨rfl, ?_, ?_⟩
  · rintro ⟨c, hc⟩
    cases hc
  · intro h
    cases h

end FleetPlan.ClusterInput
