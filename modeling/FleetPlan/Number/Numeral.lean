import FleetPlan.Number.Double
import FleetPlan.Text.Blank

/-!
Numbers as they are written: strict numerals of a data format and lenient numerals of a form field.

A strict numeral has no superfluous zero in front and digits on both sides of its point; a lenient
one is cleaned first: padding, a plus sign, zeros in front, a fraction of zeros and single underscores
go away, and what is left has to be strict.
-/
namespace FleetPlan

/-- An integer of any size, or a double. -/
inductive Number where
  | int (n : Int)
  | float (x : Double)
  deriving DecidableEq, Repr

namespace Numeral

def isDigit (c : Char) : Bool := '0' ≤ c && c ≤ '9'

/-- The digits at the front of a text, and the rest. -/
def digitRun (cs : List Char) : List Char × List Char :=
  (cs.takeWhile isDigit, cs.dropWhile isDigit)

theorem digitRun_append (cs : List Char) : (digitRun cs).1 ++ (digitRun cs).2 = cs :=
  List.takeWhile_append_dropWhile

theorem isDigit_of_mem_digitRun {cs : List Char} {c : Char} (h : c ∈ (digitRun cs).1) :
    isDigit c = true := by
  induction cs with
  | nil => simp [digitRun] at h
  | cons d cs ih =>
      cases hd : isDigit d with
      | false => simp [digitRun, hd] at h
      | true =>
          rcases List.mem_cons.1 (by simpa [digitRun, hd] using h) with rfl | hc
          · exact hd
          · exact ih hc

/-- The number that digits denote. -/
def natOf (ds : List Char) : Nat := Nat.ofDigitChars 10 ds 0

def signed (negative : Bool) (n : Nat) : Int := if negative then -(n : Int) else n

/-- A point and the digits behind it; a point without digits is left alone. -/
def scanFraction : List Char → Option (List Char) × List Char
  | '.' :: cs =>
    match digitRun cs with
    | ([], _) => (none, '.' :: cs)
    | (ds, rest) => (some ds, rest)
  | cs => (none, cs)

/-- An optional sign. -/
def scanSign : List Char → Bool × List Char
  | '-' :: cs => (true, cs)
  | '+' :: cs => (false, cs)
  | cs => (false, cs)

/-- An exponent with at least one digit. -/
def scanExponent : List Char → Option Int × List Char
  | [] => (none, [])
  | c :: cs =>
    if c = 'e' ∨ c = 'E' then
      let (negative, tail) := scanSign cs
      match digitRun tail with
      | ([], _) => (none, c :: cs)
      | (ds, rest) => (some (signed negative (natOf ds)), rest)
    else (none, c :: cs)

/-- The digits before the point: a lone zero, or digits that do not start with one. -/
def scanWhole : List Char → Option (List Char × List Char)
  | '0' :: cs => some (['0'], cs)
  | cs =>
    match digitRun cs with
    | ([], _) => none
    | (ds, rest) => some (ds, rest)

/-- The double `± whole.frac · 10^power`. -/
def float (negative : Bool) (whole frac : List Char) (power : Int) : Double :=
  Double.ofDecimal negative (natOf (whole ++ frac)) (power - frac.length)

/-- The strict numeral at the front of a text without its sign: one with a fraction or an
exponent is a double, any other is an integer. -/
def scanUnsigned (negative : Bool) (cs : List Char) : Option (Number × List Char) :=
  match scanWhole cs with
  | none => none
  | some (whole, cs) =>
    let (frac, cs) := scanFraction cs
    let (power, cs) := scanExponent cs
    if frac.isNone ∧ power.isNone then some (.int (signed negative (natOf whole)), cs)
    else some (.float (float negative whole (frac.getD []) (power.getD 0)), cs)

def scan : List Char → Option (Number × List Char)
  | '-' :: cs => scanUnsigned true cs
  | cs => scanUnsigned false cs

/-- The sign and the digits of a strict integer: a lone zero, or digits that do not start with
one, perhaps behind a minus sign. -/
def exactDigits? (cs : List Char) : Option (Bool × List Char) :=
  let (negative, body) :=
    match cs with
    | '-' :: cs => (true, cs)
    | cs => (false, cs)
  match scanWhole body with
  | some (ds, []) => some (negative, ds)
  | _ => none

/-- What follows zeros in front of a number, the last character passed over being known. It stays
where nothing follows it, or a point. -/
def afterZeros (last : Char) : List Char → Option (List Char)
  | [] => some [last]
  | c :: cs =>
    if c = '0' ∨ c = '_' then afterZeros c cs
    else if isDigit c ∨ c = '-' then some (c :: cs)
    else if c = '.' then some (last :: c :: cs)
    else none

/-- Drops zeros, and underscores among them, in front of a number. -/
def dropZeros : List Char → Option (List Char)
  | [] => none
  | c :: cs =>
    if c = '0' then afterZeros c cs
    else if isDigit c ∨ c = '-' then some (c :: cs)
    else none

/-- Drops a plus sign, behind which no minus sign may stand. -/
def dropPlus : List Char → Option (List Char)
  | '+' :: '-' :: _ => none
  | '+' :: cs => some cs
  | cs => some cs

/-- Drops a fraction that is made of zeros, at least one. -/
def dropFraction (cs : List Char) : List Char :=
  match cs.dropWhile (· != '.') with
  | _ :: c :: frac => if (c :: frac).all (· == '0') then cs.takeWhile (· != '.') else cs
  | _ => cs

/-- Two underscores in a row. -/
def hasGap : List Char → Bool
  | '_' :: '_' :: _ => true
  | _ :: cs => hasGap cs
  | [] => false

/-- Drops the underscores of a text, if it has some and each stands alone between two other
characters. -/
def dropSeparators (cs : List Char) : Option (List Char) :=
  if cs.head? = some '_' ∨ cs.getLast? = some '_' ∨ hasGap cs ∨ !cs.contains '_' then none
  else some (cs.filter (· != '_'))

/-- A text without what a lenient integer may have beside its digits. -/
def cleanInt (cs : List Char) : Option (List Char) :=
  ((dropPlus (Text.trim cs)).bind dropZeros).map fun cs =>
    let whole := dropFraction cs
    (dropSeparators whole).getD whole

/-- The sign and the digits of a lenient integer. -/
def lenientDigits? (cs : List Char) : Option (Bool × List Char) :=
  (exactDigits? cs).or ((cleanInt cs).bind exactDigits?)

/-- The integer that a text spells out, zero when it spells out none. -/
def integerOf (s : String) : Int :=
  match lenientDigits? s.toList with
  | some (negative, ds) => signed negative (natOf ds)
  | none => 0

/-- Numerals of more digits are not read as integers. -/
def mostDigits : Nat := 4300

/-- A lenient integer of a size that is read. -/
def lenientInt? (cs : List Char) : Option Int :=
  match lenientDigits? cs with
  | some (negative, ds) =>
    if ds.length ≤ mostDigits then some (signed negative (natOf ds)) else none
  | none => none

/-- A decimal: digits on at least one side of an optional point, and an exponent. -/
def decimal? (negative : Bool) (cs : List Char) : Option Double :=
  let (whole, cs) := digitRun cs
  let (frac, cs) :=
    match cs with
    | '.' :: cs => digitRun cs
    | cs => ([], cs)
  let (power, cs) := scanExponent cs
  if (whole.isEmpty && frac.isEmpty) || !cs.isEmpty then none
  else some (float negative whole frac (power.getD 0))

/-- A decimal with a sign, or the name of a special value. -/
def exactFloat? (cs : List Char) : Option Double :=
  let (negative, body) := scanSign cs
  let name := body.map Char.toLower
  if name = "nan".toList then some .nan
  else if name = "inf".toList ∨ name = "infinity".toList then some (.infinite negative)
  else decimal? negative body

/-- A lenient double: padded, or with single underscores in it. -/
def lenientFloat? (cs : List Char) : Option Double :=
  (exactFloat? (Text.trim cs)).or ((dropSeparators cs).bind exactFloat?)

end Numeral
end FleetPlan
