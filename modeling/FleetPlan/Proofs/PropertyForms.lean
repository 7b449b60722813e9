import FleetPlan.Json.Wire
import FleetPlan.Plan.Schema

/-!
Data that the properties of a type take.

Only a list can have the wrong form, so data without lists is taken anywhere, whatever keys its maps
have; a list is taken where one is declared, or nothing is. Spelling the keys of records as they are
declared changes no number, so it does not matter to what can be sent.
-/
namespace FleetPlan

namespace Json

mutual

/-- No list stands anywhere in a value. -/
def isListFree : Json → Bool
  | .list _ => false
  | .map es => membersListFree es
  | _ => true

def membersListFree : List (String × Json) → Bool
  | [] => true
  | (_, v) :: es => isListFree v && membersListFree es

end

theorem isListFree_ofText (o : Option String) : isListFree (.ofText o) = true := by
  cases o <;> rfl

theorem isSendable_ofText (o : Option String) : isSendable (.ofText o) = true := by
  cases o <;> rfl

theorem membersListFree_eq_all (es : List (String × Json)) :
    membersListFree es = es.all fun e => isListFree e.2 := by
  induction es with
  | nil => rfl
  | cons e es ih => rw [membersListFree, ih, List.all_cons]

theorem entriesSendable_eq_all (es : List (String × Json)) :
    entriesSendable es = es.all fun e => isSendable e.2 := by
  induction es with
  | nil => rfl
  | cons e es ih => rw [entriesSendable, ih, List.all_cons]

theorem areSendable_eq_all (vs : List Json) : areSendable vs = vs.all isSendable := by
  induction vs with
  | nil => rfl
  | cons v vs ih => rw [areSendable, ih, List.all_cons]

end Json

namespace Shape

/-- What is declared for a key of a record, if anything is. -/
def slot (fields : List (String × Shape)) (key : String) : Option Shape :=
  Entries.get? fields (keyOf fields key)

/-- Whether a record takes a value under a key. -/
def takes (fields : List (String × Shape)) (key : String) (v : Json) : Bool :=
  match slot fields key with
  | some s => fits (spell v s) s
  | none => true

theorem get?_of_slot_none {fields : List (String × Shape)} {key : String}
    (h : slot fields key = none) : Entries.get? fields key = none := by
  unfold slot keyOf at h
  split at h
  case isTrue declared => rw [h] at declared; cases declared
  case isFalse => exact h

theorem membersFit_spellMembers (es : List (String × Json)) (fields : List (String × Shape)) :
    membersFit (spellMembers es fields) fields = es.all fun e => takes fields e.1 e.2 := by
  induction es with
  | nil => rfl
  | cons e es ih =>
      obtain ⟨k, v⟩ := e
      rw [List.all_cons, ← ih, spellMembers]
      cases h : slot fields k with
      | some s =>
          have declared : Entries.get? fields (keyOf fields k) = some s := h
          simp only [takes, h, declared, membersFit]
      | none =>
          have undeclared : Entries.get? fields (keyOf fields k) = none := h
          simp only [takes, h, undeclared, membersFit, get?_of_slot_none h]

mutual

/-- Data without lists has every form. -/
theorem fits_spell : (v : Json) → v.isListFree = true → (s : Shape) → fits (spell v s) s = true
  | .map es, h, .map s => by
      simp only [spell, fits]
      exact valuesFit_spell es h s
  | .map es, h, .record fields => by
      simp only [spell, fits, membersFit_spellMembers]
      exact allTaken es h fields
  | .map _, _, .single => rfl
  | .map _, _, .list _ => rfl
  | .list _, h, _ => nomatch h
  | .null, _, s | .bool _, _, s | .number _, _, s | .text _, _, s => by
      cases s <;> rfl

theorem valuesFit_spell : (es : List (String × Json)) → Json.membersListFree es = true →
    (s : Shape) → valuesFit (spellValues es s) s = true
  | [], _, _ => rfl
  | (_, v) :: es, h, s => by
      rw [Json.membersListFree, Bool.and_eq_true] at h
      rw [spellValues, valuesFit, fits_spell v h.1 s, valuesFit_spell es h.2 s]
      rfl

theorem allTaken : (es : List (String × Json)) → Json.membersListFree es = true →
    (fields : List (String × Shape)) → (es.all fun e => takes fields e.1 e.2) = true
  | [], _, _ => rfl
  | (k, v) :: es, h, fields => by
      rw [Json.membersListFree, Bool.and_eq_true] at h
      rw [List.all_cons, allTaken es h.2 fields, Bool.and_true]
      simp only [takes]
      split
      · exact fits_spell v h.1 _
      · rfl

end

theorem get?_spellMembers_text {fields : List (String × Shape)} {es : Entries Json}
    (h : ∀ e ∈ es, keyOf fields e.1 = e.1) {key t : String}
    (hget : Entries.get? es key = some (.text t)) :
    Entries.get? (spellMembers es fields) key = some (.text t) := by
  induction es with
  | nil => cases hget
  | cons e es ih =>
      obtain ⟨k, v⟩ := e
      have own := h (k, v) (.head es)
      have later := ih fun e he => h e (.tail (k, v) he)
      rw [spellMembers, own]
      by_cases hk : k = key
      · simp only [Entries.get?, hk, if_true] at hget
        cases hget
        split <;> simp [Entries.get?, hk, spell_text]
      · simp only [Entries.get?, hk, if_false] at hget
        split <;> simp only [Entries.get?, hk, if_false, later hget]

theorem takes_listFree {v : Json} (h : v.isListFree = true) (fields : List (String × Shape))
    (key : String) : takes fields key v = true := by
  unfold takes
  split
  · exact fits_spell v h _
  · rfl

theorem allFit_spellAll {vs : List Json} {s : Shape} (h : ∀ v ∈ vs, fits (spell v s) s = true) :
    allFit (spellAll vs s) s = true := by
  induction vs with
  | nil => rfl
  | cons v vs ih =>
      rw [spellAll, allFit, h v (.head _), ih fun v' hv' => h v' (.tail _ hv')]
      rfl

theorem takes_list {fields : List (String × Shape)} {key : String} {s : Shape}
    (hslot : slot fields key = some (.list s)) {vs : List Json}
    (h : ∀ v ∈ vs, fits (spell v s) s = true) : takes fields key (.list vs) = true := by
  simp only [takes, hslot, spell, fits]
  exact allFit_spellAll h

mutual

theorem isSendable_spell : (v : Json) → (s : Shape) → (spell v s).isSendable = v.isSendable
  | .list vs, .list s => by simp only [spell, Json.isSendable, areSendable_spell vs s]
  | .map es, .map s => by simp only [spell, Json.isSendable, valuesSendable_spell es s]
  | .map es, .record fields => by simp only [spell, Json.isSendable, membersSendable_spell es fields]
  | .list _, .single | .list _, .map _ | .list _, .record _ => rfl
  | .map _, .single | .map _, .list _ => rfl
  | .null, s | .bool _, s | .number _, s | .text _, s => by cases s <;> rfl

theorem areSendable_spell : (vs : List Json) → (s : Shape) →
    Json.areSendable (spellAll vs s) = Json.areSendable vs
  | [], _ => rfl
  | v :: vs, s => by
      rw [spellAll, Json.areSendable, Json.areSendable, isSendable_spell v s, areSendable_spell vs s]

theorem valuesSendable_spell : (es : List (String × Json)) → (s : Shape) →
    Json.entriesSendable (spellValues es s) = Json.entriesSendable es
  | [], _ => rfl
  | (k, v) :: es, s => by
      rw [spellValues, Json.entriesSendable, Json.entriesSendable, isSendable_spell v s,
        valuesSendable_spell es s]

theorem membersSendable_spell : (es : List (String × Json)) → (fields : List (String × Shape)) →
    Json.entriesSendable (spellMembers es fields) = Json.entriesSendable es
  | [], _ => rfl
  | (k, v) :: es, fields => by
      rw [spellMembers]
      split <;>
        simp only [Json.entriesSendable, isSendable_spell v, membersSendable_spell es fields]

end

end Shape
end FleetPlan
