import FleetPlan.Number.Double

/-!
The fewest decimal digits that read back as a given double, and their layout as a text.

Each grid of `n` digits is tried through the two neighbours of the value, the first grid with a
neighbour in the rounding interval wins, and of two neighbours the nearer one.
-/
namespace FleetPlan.Double

/-- A positive decimal `digits · 10^power`. -/
structure Decimal where
  digits : Nat
  power : Int
  deriving DecidableEq, Repr

/-- `a/b < c/d` for positive denominators. -/
def ratioLt (a b c d : Nat) : Bool := a * d < c * b

/-- The reals that round to `m · 2^e`, as numerators over one denominator, ends included when
the significand is even. -/
structure Interval where
  low : Nat
  value : Nat
  high : Nat
  den : Nat
  closed : Bool

def Interval.of (m : Nat) (e : Int) : Interval :=
  let lowGap := if m = hiddenBit ∧ minExponent < e then 1 else 2
  let (n, d) := scale 1 4 (-e)
  ⟨(4 * m - lowGap) * n, 4 * m * n, (4 * m + 2) * n, d, m % 2 == 0⟩

/-- `num / den` lies in the interval. -/
def Interval.holds (i : Interval) (num den : Nat) : Bool :=
  if i.closed then !ratioLt num den i.low i.den && !ratioLt i.high i.den num den
  else ratioLt i.low i.den num den && ratioLt num den i.high i.den

/-- `digits · 10^power` as numerator and denominator. -/
def decimalRatio (digits : Nat) (power : Int) : Nat × Nat :=
  if 0 ≤ power then (digits * Nat.pow 10 power.toNat, 1)
  else (digits, Nat.pow 10 (-power).toNat)

/-- The least `z ≤ fuel` with `1 ≤ num · 10^z / den`. -/
def leadingZeros (num den : Nat) : Nat → Nat
  | 0 => 0
  | fuel + 1 => if den ≤ num then 0 else leadingZeros (num * 10) den fuel + 1

/-- The place of the decimal point: the value lies between `10^(p-1)` and `10^p`. -/
def pointPlace (num den : Nat) : Int :=
  if den ≤ num then (Nat.toDigits 10 (num / den)).length
  else 1 - (leadingZeros num den 400 : Int)

/-- The neighbour of the value on the grid `10^power` that reads back, the nearer of two and
the even one of a tie. -/
def gridNeighbour (i : Interval) (power : Int) : Option Nat :=
  let (un, ud) := decimalRatio 1 power
  let down := i.value * ud / (i.den * un)
  let reads (k : Nat) : Bool := i.holds (k * un) ud
  let twice := 2 * (i.value * ud)
  let middle := (2 * down + 1) * (i.den * un)
  match 0 < down && reads down, reads (down + 1) with
  | true, true =>
    if twice < middle then some down
    else if middle < twice then some (down + 1)
    else some (down + down % 2)
  | true, false => some down
  | false, true => some (down + 1)
  | false, false => none

/-- The first grid, from `n` digits on, with a neighbour that reads back. Digits are positive, also
where no grid has such a neighbour. -/
def searchGrids (i : Interval) (place : Int) : Nat → Nat → Decimal
  | 0, n => ⟨max 1 (i.value / i.den), place - n⟩
  | fuel + 1, n =>
    match gridNeighbour i (place - n) with
    | some k => ⟨k, place - n⟩
    | none => searchGrids i place fuel (n + 1)

/-- The shortest decimal that reads back as `m · 2^e`. -/
def shortest (m : Nat) (e : Int) : Decimal :=
  let i := Interval.of m e
  searchGrids i (pointPlace i.value i.den) 20 1

/-- How a decimal is written: `digits` are positional while the exponent of the first digit lies
in `[positionalFrom, positionalTo)`, and an exponent has at least `exponentWidth` digits. -/
structure DecimalStyle where
  positionalFrom : Int
  positionalTo : Int
  exponentWidth : Nat
  notANumber : String
  infinity : String

/-- Numbers of a configuration are positional from four places below the point to sixteen above
it, keep a zero after the point, and have signed exponents of two digits or more. -/
def plainStyle : DecimalStyle := ⟨-4, 16, 2, "nan", "inf"⟩

def padLeft (width : Nat) (cs : List Char) : List Char :=
  List.replicate (width - cs.length) '0' ++ cs

/-- The decimal digits of a number without the zeros at its end. -/
def trimmedDigits (n : Nat) : List Char :=
  ((Nat.toDigits 10 n).reverse.dropWhile (· == '0')).reverse

/-- Lays out digits whose first one stands at `10^lead`. -/
def layOut (style : DecimalStyle) (ds : List Char) (lead : Int) : List Char :=
  if style.positionalFrom ≤ lead ∧ lead < style.positionalTo then
    if 0 ≤ lead then
      let whole := lead.toNat + 1
      let frac := ds.drop whole
      (ds.take whole ++ List.replicate (whole - ds.length) '0') ++
        '.' :: (if frac.isEmpty then ['0'] else frac)
    else
      '0' :: '.' :: (List.replicate ((-lead).toNat - 1) '0' ++ ds)
  else
    let frac := ds.drop 1
    ds.take 1 ++ (if frac.isEmpty then [] else '.' :: frac) ++
      'e' :: (if lead < 0 then '-' else '+') ::
        padLeft style.exponentWidth (Nat.toDigits 10 lead.natAbs)

/-- The text of a double. -/
def render (style : DecimalStyle) : Double → String
  | nan => style.notANumber
  | infinite s => (if s then "-" else "") ++ style.infinity
  | finite s m e =>
    let body :=
      if m = 0 then layOut style ['0'] 0
      else
        let d := shortest m e
        let size : Int := (Nat.toDigits 10 d.digits).length
        layOut style (trimmedDigits d.digits) (d.power + size - 1)
    (if s then "-" else "") ++ String.ofList body

def text (x : Double) : String := x.render plainStyle

end FleetPlan.Double
