import FleetPlan.Json.Wire
import FleetPlan.Proofs.WrittenNumbers

/-!
Values when they arrive.

A map arrives with what was sent under each key, a null being as good as nothing. An integer of at
most 53 bits arrives as itself; a longer one arrives as the nearest double, which may be another
number.
-/
namespace FleetPlan

namespace Json

theorem get?_wireEntries_eq_none {es : Entries Json} {key : String}
    (h : key ∉ Entries.keys es) : Entries.get? (wireEntries es) key = none := by
  induction es with
  | nil => rfl
  | cons e es ih =>
      obtain ⟨k, v⟩ := e
      have other : key ≠ k := fun hk => h (hk ▸ .head _)
      have later : key ∉ Entries.keys es := fun hk => h (.tail _ hk)
      rw [wireEntries]
      split
      · exact ih later
      · rw [Entries.get?, if_neg (Ne.symm other)]
        exact ih later

/-- What arrives under a key is what was sent under it, and nothing arrives of a null. -/
theorem get?_wireEntries {es : Entries Json} {key : String} (hdistinct : (Entries.keys es).Nodup)
    (hkey : isReserved key = false) :
    Value.ofOption (Entries.get? (wireEntries es) key) =
      wire (Value.ofOption (Entries.get? es key)) := by
  induction es with
  | nil => exact wire_null.symm
  | cons e es ih =>
      obtain ⟨k, v⟩ := e
      obtain ⟨fresh, hdistinct⟩ := List.nodup_cons.mp hdistinct
      rw [wireEntries, Entries.get?]
      by_cases hk : k = key
      · subst hk
        rw [if_pos rfl]
        cases v with
        | null =>
            rw [if_pos (by rfl), get?_wireEntries_eq_none fresh]
            exact wire_null.symm
        | bool _ | number _ | text _ | list _ | map _ =>
            simp [Value.isNull, hkey, Entries.get?, Value.ofOption]
        | leaf a => cases a
      · rw [if_neg hk]
        split
        · exact ih hdistinct
        · rw [Entries.get?, if_neg hk]
          exact ih hdistinct

theorem wireList_texts (arns : List String) :
    wireList (arns.map .text) = arns.map .text := by
  induction arns with
  | nil => rfl
  | cons arn arns ih => rw [List.map_cons, wireList, ih, wire_text]

theorem wireList_eq_map (vs : List Json) : wireList vs = vs.map wire := by
  induction vs with
  | nil => rfl
  | cons v vs ih => rw [wireList, ih, List.map_cons]

/-- Only a text arrives as a text. -/
theorem eq_text_of_wire {v : Json} {s : String} (h : wire v = .text s) : v = .text s := by
  cases v with
  | text t => rwa [wire_text] at h
  | null | bool _ | number _ | list _ | map _ => simp [wire] at h
  | leaf a => cases a

/-- Only a list of texts arrives as one. -/
theorem eq_texts_of_wire {v : Json} {ids : List String} (h : wire v = .list (ids.map .text)) :
    v = .list (ids.map .text) := by
  cases v with
  | list vs =>
      rw [wire, wireList_eq_map, Value.list.injEq] at h
      refine congrArg Value.list ?_
      induction vs generalizing ids with
      | nil => exact h
      | cons v vs ih =>
          cases ids with
          | nil => cases h
          | cons id ids =>
              obtain ⟨head, tail⟩ := List.cons.inj h
              rw [eq_text_of_wire head, ih tail, List.map_cons]
  | null | bool _ | number _ | text _ | map _ => simp [wire] at h
  | leaf a => cases a

theorem wire_bool (b : Bool) : wire (.bool b) = .bool b := by simp [wire]

/-- What arrives in a map under a key is what was sent under it. -/
theorem member_wire {es : Entries Json} (hdistinct : (Entries.keys es).Nodup) {key : String}
    (hkey : isReserved key = false) :
    (wire (.map es)).member key = wire ((Value.map es).member key) :=
  get?_wireEntries hdistinct hkey

end Json

namespace Double

/-- An integer of at most 53 bits fills its significand with zeros behind. -/
theorem ofRatio_one {k : Nat} (hk : k ≠ 0) (hsmall : k < Nat.pow 2 53) (negative : Bool) :
    ∃ j : Nat, j ≤ 52 ∧ k * Nat.pow 2 j < 2 * hiddenBit ∧
      ofRatio negative k 1 = .finite negative (k * Nat.pow 2 j) (-(j : Int)) := by
  have low : 2 ^ k.log2 ≤ k := Nat.log2_self_le hk
  have high : k < 2 ^ (k.log2 + 1) := Nat.lt_log2_self
  have size : k.log2 < 53 := (Nat.log2_lt hk).2 hsmall
  obtain ⟨j, hj⟩ : ∃ j, k.log2 + j = 52 := ⟨52 - k.log2, by omega⟩
  have least : hiddenBit ≤ k * Nat.pow 2 j := by
    calc hiddenBit = 2 ^ k.log2 * 2 ^ j := by rw [← Nat.pow_add, hj]; rfl
      _ ≤ k * 2 ^ j := Nat.mul_le_mul_right _ low
  have most : k * Nat.pow 2 j < 2 * hiddenBit := by
    calc k * 2 ^ j < 2 ^ (k.log2 + 1) * 2 ^ j := Nat.mul_lt_mul_of_pos_right high (Nat.two_pow_pos j)
      _ = 2 * hiddenBit := by
        rw [← Nat.pow_add, show k.log2 + 1 + j = 53 by omega]
        rfl
  have scaled : scale k 1 (-(j : Int)) = (k * Nat.pow 2 j, 1) := by
    unfold scale
    split
    · obtain rfl : j = 0 := by omega
      simp
    · simp
  have exponent : exponentFor k 1 = -(j : Int) := by
    have guess : (k.log2 : Int) - (Nat.log2 1 : Int) - 52 = -(j : Int) := by
      rw [show Nat.log2 1 = 0 by decide]
      omega
    have enough : ¬ k * Nat.pow 2 j < hiddenBit * 1 := by omega
    simp only [exponentFor, guess, scaled, if_neg enough, minExponent]
    omega
  have rounded : roundHalfEven (k * Nat.pow 2 j) 1 = k * Nat.pow 2 j := by
    simp [roundHalfEven, Nat.mod_one]
  have fits : ¬ maxExponent < -(j : Int) := by
    simp only [maxExponent]
    omega
  have short : ¬ k * Nat.pow 2 j = 2 * hiddenBit := by omega
  refine ⟨j, by omega, most, ?_⟩
  simp only [ofRatio, if_neg hk, exponent, scaled, rounded, if_neg short, if_neg fits]

theorem isWhole_shifted (negative : Bool) (k j : Nat) :
    (finite negative (k * Nat.pow 2 j) (-(j : Int))).isWhole = true := by
  simp [isWhole]

theorem truncate?_shifted (negative : Bool) (k j : Nat) :
    (finite negative (k * Nat.pow 2 j) (-(j : Int))).truncate? =
      some (if negative then -(k : Int) else k) := by
  have value : (if 0 ≤ -(j : Int) then k * Nat.pow 2 j * Nat.pow 2 (-(j : Int)).toNat
      else k * Nat.pow 2 j / Nat.pow 2 (- -(j : Int)).toNat) = k := by
    split
    · obtain rfl : j = 0 := by omega
      simp
    · rw [Int.neg_neg, Int.toNat_natCast]
      exact Nat.mul_div_cancel k (Nat.two_pow_pos j)
  simp only [truncate?, value]

end Double

/-- An integer of at most 53 bits arrives as itself. -/
theorem Json.sameInt_wireNumber {n : Int} (h : n.natAbs < Nat.pow 2 53) :
    (wireNumber (.int n)).sameInt n = true := by
  by_cases hn : n = 0
  · subst hn
    simp [wireNumber, Double.ofRatio, Double.zero, Double.sameInt, Double.isWhole,
      Double.truncate?]
  · obtain ⟨j, _, _, hj⟩ := Double.ofRatio_one (Int.natAbs_ne_zero.2 hn) h (n < 0)
    have value : (if decide (n < 0) then -(n.natAbs : Int) else n.natAbs) = n :=
      Numeral.signed_natAbs n
    rw [wireNumber, hj, Double.sameInt, Double.isWhole_shifted, Double.truncate?_shifted, value,
      Bool.true_and, beq_self_eq_true]

end FleetPlan
