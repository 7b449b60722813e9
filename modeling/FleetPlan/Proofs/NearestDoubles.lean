import FleetPlan.Proofs.TravelledValues
import Mathlib.Algebra.Order.Field.Rat
import Mathlib.Algebra.Order.Field.Power
import Mathlib.Tactic.Linarith
import Mathlib.Tactic.Ring

/-!
Doubles as the numbers that they are.

A finite double is a rational number. A positive integer arrives as a positive integer, and of all
numbers that a double can be none is nearer to it; so whatever a double can hold arrives as itself.
Which of two nearest numbers is taken is not settled here, nor what becomes of fractions.
-/
namespace FleetPlan

namespace Double

/-- The number that a double is, unless it is none or without end. -/
def value? : Double → Option Rat
  | finite negative m e => some (Numeral.signed negative m * 2 ^ e)
  | nan | infinite _ => none

/-- The significand and the exponent have room in 64 bits. -/
def Fits : Double → Prop
  | finite _ m e => m < 2 * hiddenBit ∧ minExponent ≤ e ∧ e ≤ maxExponent
  | nan | infinite _ => True

/-- A number that a double can be. -/
def Holds (q : Rat) : Prop := ∃ d : Double, d.Fits ∧ d.value? = some q

/-- A double is the number `p`, and no number that a double can be is nearer to `q`. -/
structure IsNearest (q : Rat) (d : Double) (p : Rat) : Prop where
  fits : d.Fits
  value : d.value? = some p
  least : ∀ p', Holds p' → |p - q| ≤ |p' - q|

theorem IsNearest.eq {p q : Rat} {d : Double} (h : IsNearest q d p) (hq : Holds q) : p = q := by
  have none : |p - q| ≤ 0 := by simpa using h.least q hq
  exact sub_eq_zero.mp (abs_nonpos_iff.mp none)

/-! Wholeness, sign and truncation are those of the number. -/

section Whole

variable {x : Double} {n : Int} {q : Rat} {negative : Bool} {m : Nat} {e : Int}

theorem two_zpow_mul (e : Int) : (2 : Rat) ^ e * 2 ^ (-e).toNat = 2 ^ e.toNat := by
  obtain ⟨k, rfl | rfl⟩ := e.eq_nat_or_neg <;> simp

theorem value?_eq_signed {k : Nat} :
    (finite negative m e).value? = some (Numeral.signed negative k : Rat) ↔
      m * 2 ^ e.toNat = k * 2 ^ (-e).toNat := by
  have positive : (0 : Rat) < 2 ^ (-e).toNat := by positivity
  rw [value?, Option.some.injEq, ← mul_left_inj' positive.ne', mul_assoc, two_zpow_mul]
  cases negative with
  | true =>
      simp only [Numeral.signed, if_true, Int.cast_neg, Int.cast_natCast, neg_mul, neg_inj]
      exact_mod_cast Iff.rfl
  | false =>
      simp only [Numeral.signed, Bool.false_eq_true, if_false, Int.cast_natCast]
      exact_mod_cast Iff.rfl

/-- A double that is an integer has the sign of the integer. -/
theorem exists_signed (h : (finite negative m e).value? = some (n : Rat)) :
    ∃ k : Nat, n = Numeral.signed negative k := by
  have positive : (0 : Rat) < 2 ^ e := by positivity
  have value := Option.some.inj h
  cases negative with
  | true =>
      have below : (n : Rat) ≤ 0 := by
        rw [← value]
        exact mul_nonpos_of_nonpos_of_nonneg (by simp [Numeral.signed]) positive.le
      obtain ⟨k, hk⟩ := Int.exists_eq_neg_ofNat (Int.cast_nonpos.mp below)
      exact ⟨k, hk⟩
  | false =>
      have above : (0 : Rat) ≤ n := by
        rw [← value]
        exact mul_nonneg (by simp [Numeral.signed]) positive.le
      exact Int.eq_ofNat_of_zero_le (Int.cast_nonneg_iff.mp above)

theorem isPositive_iff (h : x.value? = some q) : x.isPositive = true ↔ 0 < q := by
  cases x with
  | nan | infinite _ => cases h
  | finite negative m e =>
      have positive : (0 : Rat) < 2 ^ e := by positivity
      obtain rfl := Option.some.inj h
      rw [mul_pos_iff_of_pos_right positive, Int.cast_pos, Numeral.signed]
      cases negative with
      | true => simp [isPositive]
      | false => simp [isPositive, Nat.pos_iff_ne_zero]

theorem isWhole_of_value? (h : x.value? = some (n : Rat)) :
    x.isWhole = true ∧ x.truncate? = some n := by
  cases x with
  | nan | infinite _ => cases h
  | finite negative m e =>
      obtain ⟨k, rfl⟩ := exists_signed h
      rw [value?_eq_signed] at h
      by_cases he : 0 ≤ e
      · have none : (-e).toNat = 0 := by omega
        rw [none, pow_zero, mul_one] at h
        simp only [isWhole, truncate?, he, decide_true, Bool.true_or, if_true, Nat.pow_eq, h]
        exact ⟨trivial, rfl⟩
      · have none : e.toNat = 0 := by omega
        rw [none, pow_zero, mul_one] at h
        have size : 0 < 2 ^ (-e).toNat := Nat.two_pow_pos _
        simp only [isWhole, truncate?, if_neg he, Nat.pow_eq, h, Nat.mul_mod_left,
          Nat.mul_div_cancel _ size, beq_self_eq_true, Bool.or_true]
        exact ⟨trivial, rfl⟩

theorem exists_value?_of_isWhole (h : x.isWhole = true) : ∃ n : Int, x.value? = some (n : Rat) := by
  cases x with
  | nan | infinite _ => cases h
  | finite negative m e =>
      simp only [isWhole, Bool.or_eq_true, decide_eq_true_eq, beq_iff_eq, Nat.pow_eq] at h
      obtain ⟨k, hk⟩ : ∃ k, m * 2 ^ e.toNat = k * 2 ^ (-e).toNat := by
        by_cases he : 0 ≤ e
        · have none : (-e).toNat = 0 := by omega
          exact ⟨m * 2 ^ e.toNat, by rw [none, pow_zero, mul_one]⟩
        · have none : e.toNat = 0 := by omega
          obtain ⟨k, hk⟩ := Nat.dvd_of_mod_eq_zero (h.resolve_left he)
          exact ⟨k, by rw [none, pow_zero, mul_one, hk, mul_comm]⟩
      exact ⟨Numeral.signed negative k, value?_eq_signed.mpr hk⟩

end Whole

/-! Rounding takes the nearest number. -/

section Nearest

variable {num den k j : Nat}

theorem roundHalfEven_cases (num den : Nat) :
    2 * (num % den) ≤ den ∧ roundHalfEven num den = num / den ∨
      den ≤ 2 * (num % den) ∧ roundHalfEven num den = num / den + 1 := by
  simp only [roundHalfEven]
  split_ifs <;> omega

theorem roundHalfEven_error (num : Nat) (hden : 0 < den) :
    2 * |(roundHalfEven num den * den : Int) - num| ≤ den := by
  have whole : ((num / den : Nat) * den + (num % den : Nat) : Int) = num := by
    exact_mod_cast Nat.div_add_mod' num den
  have rest : num % den < den := Nat.mod_lt num hden
  rcases roundHalfEven_cases num den with ⟨low, down⟩ | ⟨high, up⟩
  · have distance : (roundHalfEven num den * den : Int) - num = -(num % den : Nat) := by
      rw [down]
      linarith
    rw [distance, abs_neg, Nat.abs_cast]
    exact_mod_cast low
  · have distance : (roundHalfEven num den * den : Int) - num = den - (num % den : Nat) := by
      rw [up, Nat.cast_succ]
      linarith
    rw [distance, abs_of_nonneg (by omega)]
    omega

/-- No multiple of the denominator is nearer than the one that is rounded to. -/
theorem roundHalfEven_least (num : Nat) (hden : 0 < den) (t : Int) :
    |(roundHalfEven num den * den : Int) - num| ≤ |t * den - num| := by
  have error := roundHalfEven_error num hden
  by_cases same : t = roundHalfEven num den
  · rw [same]
  · have apart : (1 : Int) ≤ |t - roundHalfEven num den| := Int.one_le_abs (sub_ne_zero.mpr same)
    have step : (den : Int) ≤ |t * den - roundHalfEven num den * den| := by
      rw [← sub_mul, abs_mul, Nat.abs_cast]
      exact le_mul_of_one_le_left (Int.natCast_nonneg den) apart
    have triangle := abs_sub_le (t * den : Int) num (roundHalfEven num den * den)
    rw [abs_sub_comm (num : Int)] at triangle
    linarith

theorem roundHalfEven_le {b : Nat} (h : num < b * den) : roundHalfEven num den ≤ b := by
  have below : num / den < b := Nat.div_lt_of_lt_mul (Nat.mul_comm b den ▸ h)
  rcases roundHalfEven_cases num den with ⟨_, down⟩ | ⟨_, up⟩ <;> omega

/-- An integer of more than 53 bits is rounded to a multiple of a power of two. -/
theorem ofRatio_long (low : 2 ^ (52 + j) ≤ k) (high : k < 2 ^ (53 + j)) (hj : 0 < j)
    (negative : Bool) (h : (ofRatio negative k 1).isInfinite = false) :
    ∃ (m : Nat) (e : Nat), ofRatio negative k 1 = finite negative m e ∧ m < 2 * hiddenBit ∧
      (e : Int) ≤ maxExponent ∧ m * 2 ^ e = roundHalfEven k (2 ^ j) * 2 ^ j := by
  have hk : k ≠ 0 := by
    rintro rfl
    exact absurd low (Nat.not_le.mpr (Nat.two_pow_pos _))
  have length : k.log2 = 52 + j := (Nat.log2_eq_iff hk).mpr ⟨low, by rwa [Nat.add_right_comm]⟩
  have scaled : scale k 1 (j : Int) = (k, 2 ^ j) := by
    simp [scale]
  have exponent : exponentFor k 1 = j := by
    have guess : (k.log2 : Int) - (Nat.log2 1 : Int) - 52 = j := by
      rw [length, show Nat.log2 1 = 0 by decide]
      omega
    have enough : ¬ k < hiddenBit * 2 ^ j := by
      rw [hiddenBit, Nat.pow_eq, ← pow_add]
      exact Nat.not_lt.mpr low
    simp only [exponentFor, guess, scaled, if_neg enough, minExponent]
    omega
  have most : roundHalfEven k (2 ^ j) ≤ 2 * hiddenBit := by
    refine roundHalfEven_le (high.trans_eq ?_)
    rw [pow_add]
    rfl
  simp only [ofRatio, if_neg hk, exponent, scaled] at h ⊢
  by_cases carry : roundHalfEven k (2 ^ j) = 2 * hiddenBit
  · simp only [if_pos carry] at h ⊢
    split at h
    case isTrue => cases h
    case isFalse fits =>
      refine ⟨hiddenBit, j + 1, if_neg fits, by decide, Int.not_lt.mp fits, ?_⟩
      rw [carry, pow_succ]
      ring
  · simp only [if_neg carry] at h ⊢
    split at h
    case isTrue => cases h
    case isFalse fits =>
      exact ⟨_, j, if_neg fits, Nat.lt_of_le_of_ne most carry, Int.not_lt.mp fits, rfl⟩

/-- A number that a double can be is a multiple of a power of two, or no longer than the significand
reaches below it. -/
theorem Holds.exists_multiple {p : Rat} (h : Holds p) (j : Nat) :
    (∃ t : Int, p = t * 2 ^ j) ∨ p ≤ hiddenBit * 2 ^ j := by
  obtain ⟨d, fits, value⟩ := h
  cases d with
  | nan | infinite _ => cases value
  | finite negative m e =>
      obtain rfl := Option.some.inj value
      by_cases long : (j : Int) ≤ e
      · refine .inl ⟨Numeral.signed negative m * 2 ^ (e - j).toNat, ?_⟩
        have power : (2 : Rat) ^ e = 2 ^ (e - j).toNat * 2 ^ j := by
          rw [← zpow_natCast, ← zpow_natCast, ← zpow_add₀ two_ne_zero]
          congr 1
          omega
        rw [power]
        push_cast
        ring
      · refine .inr ?_
        have size : (Numeral.signed negative m : Rat) ≤ 2 * hiddenBit := by
          have bound : Numeral.signed negative m ≤ 2 * hiddenBit := by
            have small := fits.1
            rw [Numeral.signed]
            split <;> omega
          exact_mod_cast bound
        have power : (2 : Rat) ^ e * 2 ≤ 2 ^ j := by
          rw [← zpow_natCast, ← zpow_add_one₀ two_ne_zero]
          exact zpow_le_zpow_right₀ one_le_two (by omega)
        calc (Numeral.signed negative m : Rat) * 2 ^ e ≤ 2 * hiddenBit * 2 ^ e := by gcongr
          _ = hiddenBit * (2 ^ e * 2) := by ring
          _ ≤ hiddenBit * 2 ^ j := by gcongr

theorem isNearest_self {d : Double} (fits : d.Fits) {q : Rat} (value : d.value? = some q) :
    IsNearest q d q where
  fits := fits
  value := value
  least p' _ := by
    rw [sub_self, abs_zero]
    exact abs_nonneg _

theorem isNearest_short (hk : k ≠ 0) (small : k < Nat.pow 2 53) :
    IsNearest k (ofRatio false k 1) k := by
  obtain ⟨j, hj, most, rounded⟩ := ofRatio_one hk small false
  have fits : (finite false (k * Nat.pow 2 j) (-j)).Fits :=
    ⟨most, by rw [minExponent]; omega, by rw [maxExponent]; omega⟩
  rw [rounded]
  exact isNearest_self fits (value?_eq_signed.mpr (by simp))

theorem isNearest_long (low : 2 ^ (52 + j) ≤ k) (high : k < 2 ^ (53 + j)) (hj : 0 < j)
    (h : (ofRatio false k 1).isInfinite = false) :
    IsNearest k (ofRatio false k 1) (roundHalfEven k (2 ^ j) * 2 ^ j : Nat) := by
  obtain ⟨m, e, rounded, fits, finite, value⟩ := ofRatio_long low high hj false h
  have least (t : Int) :
      |((roundHalfEven k (2 ^ j) * 2 ^ j : Nat) : Rat) - k| ≤ |(t : Rat) * 2 ^ j - k| := by
    have nearest := roundHalfEven_least k (Nat.two_pow_pos j) t
    push_cast at nearest ⊢
    exact_mod_cast nearest
  have reach : (hiddenBit * 2 ^ j : Rat) ≤ k := by
    rw [pow_add] at low
    exact_mod_cast low
  rw [rounded]
  refine ⟨⟨fits, ?_, finite⟩, value?_eq_signed.mpr (by simpa using value), fun p' held => ?_⟩
  · rw [minExponent]
    omega
  · rcases held.exists_multiple j with ⟨t, rfl⟩ | short
    · exact least t
    · calc |((roundHalfEven k (2 ^ j) * 2 ^ j : Nat) : Rat) - k|
          ≤ |(hiddenBit * 2 ^ j : Rat) - k| := least hiddenBit
        _ = k - hiddenBit * 2 ^ j := by rw [abs_of_nonpos (by linarith), neg_sub]
        _ ≤ k - p' := by linarith
        _ = |p' - k| := by rw [abs_of_nonpos (by linarith), neg_sub]

/-- A positive integer that does not go beyond all doubles is rounded to a positive integer, and to a
nearest number. -/
theorem exists_isNearest (hk : 0 < k) (h : (ofRatio false k 1).isInfinite = false) :
    ∃ n : Nat, 0 < n ∧ IsNearest k (ofRatio false k 1) n := by
  by_cases small : k < Nat.pow 2 53
  · exact ⟨k, hk, isNearest_short (Nat.ne_of_gt hk) small⟩
  · have bits : 53 ≤ k.log2 := (Nat.le_log2 (Nat.ne_of_gt hk)).mpr (Nat.not_lt.mp small)
    obtain ⟨j, hj⟩ := Nat.exists_eq_add_of_le (show 52 ≤ k.log2 by omega)
    obtain ⟨low, high⟩ := (Nat.log2_eq_iff (Nat.ne_of_gt hk)).mp hj
    have positive : 0 < roundHalfEven k (2 ^ j) := by
      have whole : 2 ^ 52 ≤ k / 2 ^ j := by
        rwa [Nat.le_div_iff_mul_le (Nat.two_pow_pos j), ← pow_add]
      rcases roundHalfEven_cases k (2 ^ j) with ⟨_, down⟩ | ⟨_, up⟩ <;> omega
    refine ⟨_, Nat.mul_pos positive (Nat.two_pow_pos j), isNearest_long low ?_ (by omega) h⟩
    rwa [Nat.add_right_comm] at high

end Nearest

end Double

end FleetPlan
