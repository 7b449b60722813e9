import FleetPlan.Plan.Deferred

/-!
Laws of deferred values: when a computed value is known, what it is, and which resources it comes
from.

A value computed from others is known when they are known and the computation has an answer, and it
fails with the first of them that does; it comes from whatever its first part comes from, known or
not.
-/
namespace FleetPlan.Deferred

variable {α β : Type}

theorem pure_bind (a : α) (f : α → Deferred β) : (Pure.pure a >>= f) = f a := rfl

protected theorem bind_assoc {γ : Type} (x : Deferred α) (f : α → Deferred β)
    (g : β → Deferred γ) : x >>= f >>= g = x >>= fun a => f a >>= g := by
  obtain ⟨outcome, sources⟩ := x
  cases outcome with
  | error e => rfl
  | ok a =>
      show Deferred.bind (Deferred.bind _ f) g = Deferred.bind _ fun a => Deferred.bind (f a) g
      simp only [Deferred.bind]
      cases (f a).outcome with
      | error e => rfl
      | ok b => simp only [List.append_assoc]

theorem outcome_bind_of_ok {x : Deferred α} {a : α} (h : x.outcome = .ok a)
    (f : α → Deferred β) : (x >>= f).outcome = (f a).outcome := by
  rw [outcome_bind, h]
  rfl

theorem outcome_bind_of_error {x : Deferred α} {e : Failure} (h : x.outcome = .error e)
    (f : α → Deferred β) : (x >>= f).outcome = .error e := by
  rw [outcome_bind, h]
  rfl

theorem outcome_bind_eq_ok {x : Deferred α} {f : α → Deferred β} {b : β} :
    (x >>= f).outcome = .ok b ↔ ∃ a, x.outcome = .ok a ∧ (f a).outcome = .ok b := by
  constructor
  · intro h
    cases hx : x.outcome with
    | error e => rw [outcome_bind_of_error hx] at h; cases h
    | ok a => exact ⟨a, rfl, by rwa [outcome_bind_of_ok hx] at h⟩
  · rintro ⟨a, hx, hf⟩
    rwa [outcome_bind_of_ok hx]

theorem mem_sources_bind_left {x : Deferred α} {f : α → Deferred β} {r : ResourceRef}
    (h : r ∈ x.sources) : r ∈ (x >>= f).sources := by
  show r ∈ (Deferred.bind x f).sources
  unfold Deferred.bind
  cases x.outcome with
  | error e => exact h
  | ok a => exact List.mem_append_left _ h

theorem mem_sources_bind_right {x : Deferred α} {f : α → Deferred β} {a : α} {r : ResourceRef}
    (hx : x.outcome = .ok a) (h : r ∈ (f a).sources) : r ∈ (x >>= f).sources := by
  rw [sources_bind_ok hx]
  exact List.mem_append_right _ h

theorem error_of_map {x : Deferred α} {g : α → β} {e : Failure}
    (h : (x >>= fun a => Pure.pure (g a)).outcome = .error e) : x.outcome = .error e := by
  cases hx : x.outcome with
  | error e' => rw [outcome_bind_of_error hx] at h; cases h; rfl
  | ok a => rw [outcome_bind_of_ok hx] at h; cases h

/-- A value that is computed from another one and perhaps from more. -/
def StartsWith (d : Deferred β) (x : Deferred α) : Prop := ∃ f : α → Deferred β, d = x >>= f

theorem startsWith_bind (x : Deferred α) (f : α → Deferred β) : (x >>= f).StartsWith x := ⟨f, rfl⟩

theorem startsWith_refl (x : Deferred α) : x.StartsWith x := by
  refine ⟨Pure.pure, ?_⟩
  obtain ⟨outcome, sources⟩ := x
  cases outcome with
  | error e => rfl
  | ok a =>
      show (⟨.ok a, sources⟩ : Deferred α) = ⟨.ok a, sources ++ []⟩
      rw [List.append_nil]

theorem StartsWith.outcome {d : Deferred β} {x : Deferred α} (h : d.StartsWith x) {e : Failure}
    (he : x.outcome = .error e) : d.outcome = .error e := by
  obtain ⟨f, rfl⟩ := h
  exact outcome_bind_of_error he f

theorem StartsWith.exists_ok {d : Deferred β} {x : Deferred α} (h : d.StartsWith x) {b : β}
    (hd : d.outcome = .ok b) : ∃ a, x.outcome = .ok a := by
  obtain ⟨f, rfl⟩ := h
  obtain ⟨a, ha, _⟩ := outcome_bind_eq_ok.mp hd
  exact ⟨a, ha⟩

theorem StartsWith.sources {d : Deferred β} {x : Deferred α} (h : d.StartsWith x)
    {r : ResourceRef} (hr : r ∈ x.sources) : r ∈ d.sources := by
  obtain ⟨f, rfl⟩ := h
  exact mem_sources_bind_left hr

/-- A value that is not null if it is known. -/
def NeverNull (d : Deferred Json) : Prop := ∀ v, d.outcome = .ok v → v.isNull = false

theorem neverNull_bind {x : Deferred α} {f : α → Deferred Json} (h : ∀ a, (f a).NeverNull) :
    (x >>= f).NeverNull := by
  intro v hv
  obtain ⟨a, _, ha⟩ := outcome_bind_eq_ok.mp hv
  exact h a v ha

theorem neverNull_pure {v : Json} (h : v.isNull = false) : (Pure.pure v : Deferred Json).NeverNull := by
  intro w hw
  cases hw
  exact h

/-- A value that is known and has a property. -/
def Holds (d : Deferred α) (P : α → Prop) : Prop := ∃ a, d.outcome = .ok a ∧ P a

variable {P : α → Prop} {Q : β → Prop}

theorem Holds.not_error {d : Deferred α} (h : d.Holds P) {e : Failure} : d.outcome ≠ .error e := by
  intro he
  obtain ⟨a, ha, _⟩ := h
  rw [ha] at he
  cases he

theorem holds_pure {a : α} (h : P a) : (Pure.pure a : Deferred α).Holds P := ⟨a, rfl, h⟩

theorem Holds.imp {d : Deferred α} {P' : α → Prop} (h : d.Holds P) (himp : ∀ a, P a → P' a) :
    d.Holds P' := by
  obtain ⟨a, ha, hP⟩ := h
  exact ⟨a, ha, himp a hP⟩

theorem Holds.bind {x : Deferred α} {f : α → Deferred β} (h : x.Holds P)
    (hf : ∀ a, P a → (f a).Holds Q) : (x >>= f).Holds Q := by
  obtain ⟨a, ha, hP⟩ := h
  obtain ⟨b, hb, hQ⟩ := hf a hP
  exact ⟨b, outcome_bind_eq_ok.mpr ⟨a, ha, hb⟩, hQ⟩

theorem holds_ofOption {o : Option α} {a : α} (h : o = some a) (ha : P a) :
    (ofOption o).Holds P := by
  rw [h]
  exact holds_pure ha

theorem holds_all {ds : List (Deferred α)} (h : ∀ d ∈ ds, d.Holds P) :
    (all ds).Holds fun as => ∀ a ∈ as, P a := by
  induction ds with
  | nil => exact holds_pure fun a ha => nomatch ha
  | cons d ds ih =>
      refine (h d (.head _)).bind fun a ha => ?_
      refine (ih fun d' hd' => h d' (.tail _ hd')).bind fun as has => ?_
      exact holds_pure (List.forall_mem_cons.mpr ⟨ha, has⟩)

end FleetPlan.Deferred
