import Mathlib.Data.List.Forall2
import Mathlib.Data.List.Perm.Subperm
import FleetPlan.Plan.History

/-!
What a resource waits for.

A resource that others wait for is waited for itself; a component is waited for in its descendants.
Waiting fails only where something has failed, and every resource that is to be waited for is among
those that are recorded.
-/
namespace FleetPlan

theorem mapM_eq_ok_iff {ε α β : Type} {f : α → Except ε β} {as : List α} {bs : List β} :
    as.mapM f = .ok bs ↔ List.Forall₂ (fun a b => f a = .ok b) as bs := by
  induction as generalizing bs with
  | nil =>
      rw [List.mapM_nil, List.forall₂_nil_left_iff]
      exact ⟨fun h => (Except.ok.inj h).symm, fun h => h ▸ rfl⟩
  | cons a as ih =>
      rw [List.mapM_cons, List.forall₂_cons_left_iff]
      constructor
      · intro h
        cases ha : f a with
        | error e => rw [ha] at h; cases h
        | ok b =>
            cases has : as.mapM f with
            | error e => rw [ha, has] at h; cases h
            | ok rest =>
                rw [ha, has] at h
                cases h
                exact ⟨b, rest, rfl, ih.mp has, rfl⟩
      · rintro ⟨b, rest, ha, hrest, rfl⟩
        rw [ha, ih.mpr hrest]
        rfl

theorem exists_mapM_eq_ok {ε α β : Type} {f : α → Except ε β} {as : List α}
    (h : ∀ a ∈ as, ∃ b, f a = .ok b) : ∃ bs, as.mapM f = .ok bs := by
  induction as with
  | nil => exact ⟨[], rfl⟩
  | cons a as ih =>
      obtain ⟨b, hb⟩ := h a (.head _)
      obtain ⟨bs, hbs⟩ := ih fun a' ha' => h a' (.tail _ ha')
      exact ⟨b :: bs, mapM_eq_ok_iff.mpr (.cons hb (mapM_eq_ok_iff.mp hbs))⟩

theorem exists_mem_of_mapM_eq_ok {ε α β : Type} {f : α → Except ε β} {as : List α} {bs : List β}
    (h : as.mapM f = .ok bs) {a : α} (ha : a ∈ as) : ∃ b ∈ bs, f a = .ok b := by
  have related := mapM_eq_ok_iff.mp h
  clear h
  induction related with
  | nil => cases ha
  | cons hb _ ih =>
      cases ha with
      | head => exact ⟨_, .head _, hb⟩
      | tail _ ha =>
          obtain ⟨b, hmem, hfa⟩ := ih ha
          exact ⟨b, .tail _ hmem, hfa⟩

namespace History

/-- Nothing that was tried has failed. -/
def Unfailed (past : History) : Prop := ∀ a ∈ past.attempts, a.failure = none

/-- No resource of the cloud's own is a component. -/
def Apart (past : History) : Prop :=
  ∀ a ∈ past.attempts, a.isComponent = true → a.ref.isOfCloud = false

theorem unfailed_nil : Unfailed [] := by
  intro a ha
  cases ha

theorem unfailed_append {past more : History} (h : past.Unfailed) (hm : more.Unfailed) :
    (past ++ more).Unfailed := by
  intro a ha
  rw [attempts_append] at ha
  exact (List.mem_append.mp ha).elim (h a) (hm a)

theorem apart_append {past more : History} (h : past.Apart) (hm : more.Apart) :
    (past ++ more).Apart := by
  intro a ha
  rw [attempts_append] at ha
  exact (List.mem_append.mp ha).elim (h a) (hm a)

theorem mem_attempts_of_mem_children {past : History} {ref : ResourceRef} {a : Attempt}
    (h : a ∈ past.children ref) : a ∈ past.attempts := (List.mem_filter.mp h).1

theorem isComponent_find {past : History} (h : past.Apart) {ref : ResourceRef}
    (hc : ref.isOfCloud = true) : (past.find ref).isComponent = false := by
  show past.attempts.any _ = false
  rw [List.any_eq_false]
  intro a ha found
  rw [Bool.and_eq_true, decide_eq_true_eq] at found
  have apart := h a ha found.2
  rw [found.1, hc] at apart
  cases apart

theorem standIns_of_custom {past : History} {fuel : Nat} {a : Attempt} {refs : List ResourceRef}
    (hc : a.isComponent = false) (h : past.standIns (fuel + 1) a = .ok refs) :
    refs = [a.ref] := by
  simp only [standIns, hc, Bool.false_eq_true, if_false] at h
  cases hf : a.failure with
  | none => rw [hf] at h; exact (Except.ok.inj h).symm
  | some e => rw [hf] at h; cases h

theorem exists_standIns {past : History} (h : past.Unfailed) (fuel : Nat) {a : Attempt}
    (ha : a.failure = none) : ∃ refs, past.standIns fuel a = .ok refs := by
  induction fuel generalizing a with
  | zero => exact ⟨[a.ref], rfl⟩
  | succ fuel ih =>
      cases hc : a.isComponent with
      | false =>
          simp only [standIns, hc, ha, Bool.false_eq_true, if_false]
          exact ⟨_, rfl⟩
      | true =>
          obtain ⟨below, hbelow⟩ : ∃ below,
              (past.children a.ref).mapM (standIns past fuel) = .ok below :=
            exists_mapM_eq_ok fun b hb => ih (h b (mem_attempts_of_mem_children hb))
          simp only [standIns, hc, hbelow, if_true]
          exact ⟨below.flatten, rfl⟩

/-- A resource that can be waited for: all that stand for it exist. -/
def Stands (past : History) (a : Attempt) : Prop :=
  ∃ own, past.standIns (past.length + 1) a = .ok own

theorem stands_of_unfailed {past : History} (h : past.Unfailed) {a : Attempt}
    (ha : a.failure = none) : past.Stands a := exists_standIns h _ ha

theorem exists_expand {past : History} {waited : List Attempt}
    (hw : ∀ a ∈ waited, past.Stands a) : ∃ refs, past.expand waited = .ok refs := by
  obtain ⟨refs, hrefs⟩ : ∃ refs, waited.mapM (past.standIns (past.length + 1)) = .ok refs :=
    exists_mapM_eq_ok hw
  simp only [expand, hrefs]
  exact ⟨refs.flatten.eraseDups, rfl⟩

theorem mem_expand {past : History} {waited : List Attempt} {refs : List ResourceRef}
    (h : past.expand waited = .ok refs) {a : Attempt} (ha : a ∈ waited) :
    ∃ own, past.standIns (past.length + 1) a = .ok own ∧ ∀ r ∈ own, r ∈ refs := by
  unfold expand at h
  cases hall : waited.mapM (past.standIns (past.length + 1)) with
  | error e => rw [hall] at h; cases h
  | ok all =>
      rw [hall] at h
      cases h
      obtain ⟨own, hmem, hown⟩ := exists_mem_of_mapM_eq_ok hall ha
      refine ⟨own, hown, fun r hr => ?_⟩
      exact List.mem_eraseDups.mpr (List.mem_flatten.mpr ⟨own, hmem, hr⟩)

theorem mem_expand_of_custom {past : History} {waited : List Attempt} {refs : List ResourceRef}
    (h : past.expand waited = .ok refs) {a : Attempt} (ha : a ∈ waited)
    (hc : a.isComponent = false) : a.ref ∈ refs := by
  obtain ⟨own, hown, hrefs⟩ := mem_expand h ha
  rw [standIns_of_custom hc hown] at hrefs
  exact hrefs _ (.head _)

section StandsFor

variable {past : History} {a b : Attempt} {ref : ResourceRef} {path : List Attempt}

/-- What is waited for instead of a resource: itself, or all that is not a component itself and stands
below it, in however many components. -/
inductive StandsFor (past : History) : Attempt → ResourceRef → Prop where
  | self {a : Attempt} (hc : a.isComponent = false) : StandsFor past a a.ref
  | under {a b : Attempt} {ref : ResourceRef} (hc : a.isComponent = true)
    (hb : b ∈ past.children a.ref) (h : StandsFor past b ref) : StandsFor past a ref

theorem StandsFor.append (h : past.StandsFor a ref) (more : History) :
    (past ++ more).StandsFor a ref := by
  induction h with
  | self hc => exact .self hc
  | under hc hb _ ih =>
      refine .under hc ?_ ih
      rw [children_append]
      exact List.mem_append_left _ hb

/-- A way down from a resource through what was tried below it. -/
inductive Descent (past : History) : Attempt → List Attempt → ResourceRef → Prop where
  | stop {a : Attempt} (hc : a.isComponent = false) : Descent past a [] a.ref
  | step {a b : Attempt} {path : List Attempt} {ref : ResourceRef} (hc : a.isComponent = true)
    (hb : b ∈ past.children a.ref) (h : Descent past b path ref) : Descent past a (b :: path) ref

theorem Descent.subset (h : past.Descent a path ref) : path ⊆ past.attempts := by
  induction h with
  | stop => exact List.nil_subset _
  | step _ hb _ ih => exact List.cons_subset.mpr ⟨mem_attempts_of_mem_children hb, ih⟩

theorem Descent.drop {front : List Attempt} (h : past.Descent a (front ++ b :: path) ref) :
    past.Descent b path ref := by
  induction front generalizing a with
  | nil =>
      cases h with
      | step _ _ h => exact h
  | cons c front ih =>
      cases h with
      | step _ _ h => exact ih h

/-- Whatever stands for a resource is reached without coming by any attempt twice. -/
theorem StandsFor.exists_descent (h : past.StandsFor a ref) :
    ∃ path, past.Descent a path ref ∧ path.Nodup := by
  induction h with
  | self hc => exact ⟨[], .stop hc, List.nodup_nil⟩
  | @under a b ref hc hb _ ih =>
      obtain ⟨path, hpath, hdistinct⟩ := ih
      by_cases hmem : b ∈ path
      -- Where the way comes by the next attempt again, it goes on from there at once.
      · obtain ⟨front, back, rfl⟩ := List.append_of_mem hmem
        exact ⟨b :: back, .step hc hb hpath.drop, (List.nodup_append.mp hdistinct).2.1⟩
      · exact ⟨b :: path, .step hc hb hpath, List.nodup_cons.mpr ⟨hmem, hdistinct⟩⟩

theorem Descent.mem_standIns {fuel : Nat} {own : List ResourceRef} (h : past.Descent a path ref)
    (hfuel : path.length < fuel) (hown : past.standIns fuel a = .ok own) : ref ∈ own := by
  induction h generalizing fuel own with
  | stop hc =>
      obtain ⟨fuel, rfl⟩ := Nat.exists_eq_succ_of_ne_zero (Nat.ne_of_gt hfuel)
      rw [standIns_of_custom hc hown]
      exact .head _
  | @step a b path ref hc hb _ ih =>
      obtain ⟨fuel, rfl⟩ := Nat.exists_eq_succ_of_ne_zero (Nat.ne_zero_of_lt hfuel)
      simp only [standIns, hc, if_true] at hown
      cases hbelow : (past.children a.ref).mapM (standIns past fuel) with
      | error e => rw [hbelow] at hown; cases hown
      | ok below =>
          rw [hbelow] at hown
          cases hown
          obtain ⟨own, hmem, hown⟩ := exists_mem_of_mapM_eq_ok hbelow hb
          have found := ih (Nat.lt_of_succ_lt_succ hfuel) hown
          exact List.mem_flatten.mpr ⟨own, hmem, found⟩

/-- Whatever stands for a resource is found among what is waited for instead of it: a way down without
repetition is no longer than what has happened. -/
theorem StandsFor.mem_standIns {own : List ResourceRef} (h : past.StandsFor a ref)
    (hown : past.standIns (past.length + 1) a = .ok own) : ref ∈ own := by
  obtain ⟨path, hpath, hdistinct⟩ := h.exists_descent
  refine hpath.mem_standIns ?_ hown
  have shorter : path.length ≤ past.attempts.length :=
    (List.Nodup.subperm hdistinct hpath.subset).length_le
  have tried : past.attempts.length ≤ past.length := List.length_filterMap_le _ _
  exact Nat.lt_succ_of_le (Nat.le_trans shorter tried)

end StandsFor

end History
end FleetPlan
