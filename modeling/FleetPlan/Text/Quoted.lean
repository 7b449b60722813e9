import FleetPlan.Text.Printable

/-!
Texts in quotes: how a text is shown inside a list or a mapping.

Single quotes are used unless the text holds a single and no double quote, and only the chosen
quote, the backslash and characters without a graphic form are escaped.
-/
namespace FleetPlan.Text

/-- The lower-case hexadecimal digits of a number, zero-padded on the left. -/
def hex (width n : Nat) : List Char :=
  let ds := Nat.toDigits 16 n
  List.replicate (width - ds.length) '0' ++ ds

/-- The quote that spares escapes. -/
def chooseQuote (cs : List Char) : Char :=
  if cs.contains '\'' && !cs.contains '"' then '"' else '\''

def quoteChar (quote c : Char) : List Char :=
  if c = quote ∨ c = '\\' then ['\\', c]
  else if c = '\n' then ['\\', 'n']
  else if c = '\r' then ['\\', 'r']
  else if c = '\t' then ['\\', 't']
  else if isPrintable c then [c]
  else if c.toNat ≤ 0xFF then '\\' :: 'x' :: hex 2 c.toNat
  else if c.toNat ≤ 0xFFFF then '\\' :: 'u' :: hex 4 c.toNat
  else '\\' :: 'U' :: hex 8 c.toNat

def quoted (s : String) : String :=
  let cs := s.toList
  let q := chooseQuote cs
  String.ofList (q :: cs.flatMap (quoteChar q) ++ [q])

end FleetPlan.Text
