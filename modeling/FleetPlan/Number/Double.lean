/-!
Binary floating point of 64 bits, held exactly as a significand times a power of two.

Rounding picks the nearest representable number and sends a tie to the even significand; comparison,
wholeness and truncation are read off the exact value.
-/
namespace FleetPlan

/-- `finite s m e` is `± m · 2^e`, negative when `s` is set. -/
inductive Double where
  | nan
  | infinite (negative : Bool)
  | finite (negative : Bool) (significand : Nat) (exponent : Int)
  deriving DecidableEq, Repr

namespace Double

/-- The least exponent, that of the subnormal numbers. -/
def minExponent : Int := -1074

/-- The greatest exponent of a finite number. -/
def maxExponent : Int := 971

/-- The significand of a normal number has 53 bits. -/
def hiddenBit : Nat := Nat.pow 2 52

def zero (negative : Bool) : Double := .finite negative 0 minExponent

/-- The natural number nearest to `num / den`, the even one of two. -/
def roundHalfEven (num den : Nat) : Nat :=
  let q := num / den
  let r := num % den
  if 2 * r < den then q
  else if den < 2 * r then q + 1
  else q + q % 2

/-- The fraction `num / den / 2^e`, as numerator and denominator. -/
def scale (num den : Nat) (e : Int) : Nat × Nat :=
  if 0 ≤ e then (num, den * Nat.pow 2 e.toNat) else (num * Nat.pow 2 (-e).toNat, den)

/-- The exponent that leaves a significand of 53 bits, or the least one. -/
def exponentFor (num den : Nat) : Int :=
  let guess : Int := (num.log2 : Int) - (den.log2 : Int) - 52
  let (n, d) := scale num den guess
  max (if n < hiddenBit * d then guess - 1 else guess) minExponent

/-- The double nearest to `± num / den`. -/
def ofRatio (negative : Bool) (num den : Nat) : Double :=
  if num = 0 then zero negative
  else
    let e := exponentFor num den
    let (n, d) := scale num den e
    let m := roundHalfEven n d
    let (m, e) := if m = 2 * hiddenBit then (hiddenBit, e + 1) else (m, e)
    if maxExponent < e then .infinite negative else .finite negative m e

/-- The double nearest to `± digits · 10^power`. Powers far outside the range are settled
without computing them. -/
def ofDecimal (negative : Bool) (digits : Nat) (power : Int) : Double :=
  let size : Int := (Nat.toDigits 10 digits).length
  if digits = 0 ∨ size + power < -330 then zero negative
  else if 310 < size + power then .infinite negative
  else if 0 ≤ power then ofRatio negative (digits * Nat.pow 10 power.toNat) 1
  else ofRatio negative digits (Nat.pow 10 (-power).toNat)

/-- Equal as numbers: the zeros agree and nothing equals not-a-number. -/
def same : Double → Double → Bool
  | infinite s, infinite t => s == t
  | finite s m e, finite t n f => (m == 0 && n == 0) || (s == t && m == n && e == f)
  | _, _ => false

/-- The number is whole: the fraction bits of its significand are zero. -/
def isWhole : Double → Bool
  | finite _ m e => 0 ≤ e || m % Nat.pow 2 (-e).toNat == 0
  | _ => false

/-- The number without its fraction. -/
def truncate? : Double → Option Int
  | finite s m e =>
    let n := if 0 ≤ e then m * Nat.pow 2 e.toNat else m / Nat.pow 2 (-e).toNat
    some (if s then -(n : Int) else n)
  | _ => none

def isPositive : Double → Bool
  | infinite s => !s
  | finite s m _ => !s && m != 0
  | nan => false

def isInfinite : Double → Bool
  | infinite _ => true
  | _ => false

def isZero : Double → Bool
  | finite _ m _ => m == 0
  | _ => false

/-- Equal as numbers to an integer. -/
def sameInt (x : Double) (n : Int) : Bool :=
  x.isWhole && x.truncate? == some n

end Double
end FleetPlan
