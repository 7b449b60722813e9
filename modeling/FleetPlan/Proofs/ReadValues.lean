import FleetPlan.Proofs.JsonPhrases

/-!
Values that are read from texts.

What is read from a text has its maps settled, so no map in it repeats a key, at any depth. Such a
value is the same as itself; a map that repeats a key need not be.
-/
namespace FleetPlan.Json

variable {τ : Type}

mutual

/-- No map in a value repeats a key. -/
def HasDistinctKeys : Json τ → Prop
  | .list xs => HaveDistinctKeys xs
  | .map es => (Entries.keys es).Nodup ∧ MembersHaveDistinctKeys es
  | _ => True

def HaveDistinctKeys : List (Json τ) → Prop
  | [] => True
  | x :: xs => HasDistinctKeys x ∧ HaveDistinctKeys xs

def MembersHaveDistinctKeys : List (τ × Json τ) → Prop
  | [] => True
  | (_, v) :: es => HasDistinctKeys v ∧ MembersHaveDistinctKeys es

end

theorem haveDistinctKeys_iff (xs : List (Json τ)) :
    HaveDistinctKeys xs ↔ ∀ x ∈ xs, HasDistinctKeys x := by
  induction xs with
  | nil => simp [HaveDistinctKeys]
  | cons x xs ih => simp [HaveDistinctKeys, ih]

theorem membersHaveDistinctKeys_iff (es : Entries (Json τ) τ) :
    MembersHaveDistinctKeys es ↔ ∀ e ∈ es, HasDistinctKeys e.2 := by
  induction es with
  | nil => simp [MembersHaveDistinctKeys]
  | cons e es ih => simp [MembersHaveDistinctKeys, ih]

theorem numbersAgree_self (x : Number) : numbersAgree x x = true := by
  match x with
  | .int n => simp [numbersAgree]
  | .float .nan => rfl
  | .float (.infinite s) => simp [numbersAgree, Double.same]
  | .float (.finite s m e) => simp [numbersAgree, Double.same]

variable [DecidableEq τ]

mutual

theorem same_self {v : Json τ} (h : HasDistinctKeys v) : same v v = true := by
  match v with
  | .null => rfl
  | .bool b => exact numbersAgree_self (.int (if b then 1 else 0))
  | .number x => exact numbersAgree_self x
  | .text s => simp [same]
  | .list xs => exact sameList_self h
  | .map es =>
      have members : sameEntries es es = true :=
        sameEntries_of_found h.2 fun e => Entries.get?_of_mem h.1
      simp [same, members]

theorem sameList_self {xs : List (Json τ)} (h : HaveDistinctKeys xs) : sameList xs xs = true := by
  match xs with
  | [] => rfl
  | x :: xs => simp [sameList, same_self h.1, sameList_self h.2]

theorem sameEntries_of_found {es fs : List (τ × Json τ)} (h : MembersHaveDistinctKeys es)
    (hfound : ∀ e, e ∈ es → Entries.get? fs e.1 = some e.2) : sameEntries es fs = true := by
  match es with
  | [] => rfl
  | (k, v) :: es =>
      have first := hfound (k, v) (.head _)
      have others := sameEntries_of_found h.2 fun e he => hfound e (.tail _ he)
      simp [sameEntries, first, others, same_self h.1]

end

mutual

/-- Every map in a settled value has each of its keys once. -/
theorem hasDistinctKeys_settled (v : Json τ) : HasDistinctKeys (settled v) := by
  match v with
  | .null | .bool _ | .number _ | .text _ => exact trivial
  | .list xs => exact haveDistinctKeys_settledElements xs
  | .map es =>
      rw [settled, HasDistinctKeys, membersHaveDistinctKeys_iff]
      exact ⟨Entries.nodup_keys_ofPairs _,
        Entries.forall_ofPairs (hasDistinctKeys_settledMembers es)⟩

theorem haveDistinctKeys_settledElements (xs : List (Json τ)) :
    HaveDistinctKeys (settledElements xs) := by
  match xs with
  | [] => exact trivial
  | x :: xs => exact ⟨hasDistinctKeys_settled x, haveDistinctKeys_settledElements xs⟩

theorem hasDistinctKeys_settledMembers (es : List (τ × Json τ)) :
    ∀ e ∈ settledMembers es, HasDistinctKeys e.2 := by
  match es with
  | [] => exact List.forall_mem_nil _
  | (_, v) :: es =>
      exact List.forall_mem_cons.2 ⟨hasDistinctKeys_settled v, hasDistinctKeys_settledMembers es⟩

end

theorem hasDistinctKeys_of_spelled? [Texts τ] {σ : Type} [Glyph σ] {ss : List σ} {v : Json τ}
    (h : spelled? ss = some v) : HasDistinctKeys v := by
  obtain ⟨ts, -, spelled⟩ := Option.bind_eq_some_iff.1 h
  obtain ⟨w, -, rfl⟩ := ofTokens?_eq_some_iff.1 spelled
  exact hasDistinctKeys_settled w

end FleetPlan.Json
