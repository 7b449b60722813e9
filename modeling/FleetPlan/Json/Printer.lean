import FleetPlan.Json.Value
import FleetPlan.Number.Shortest
import FleetPlan.Text.Quoted

/-!
Writing a JSON text.

Every character outside the printable ASCII range is escaped, one code unit of sixteen bits at a
time; an indented text puts each element on a line of its own.
-/
namespace FleetPlan.Json

/-- How a text is laid out: spaces per level when each element has its own line, and what follows
the comma when all stands on one line. -/
structure Layout where
  indent : Option Nat
  gap : List Char

/-- Two spaces per level. -/
def Layout.indented : Layout := ⟨some 2, []⟩

def Layout.inline : Layout := ⟨none, [' ']⟩

def doubleStyle : Double.DecimalStyle := ⟨-4, 16, 2, "NaN", "Infinity"⟩

def unitEscape (n : Nat) : List Char := '\\' :: 'u' :: Text.hex 4 n

def escapeChar (c : Char) : List Char :=
  if c = '"' then ['\\', '"']
  else if c = '\\' then ['\\', '\\']
  else if c = '\n' then ['\\', 'n']
  else if c = '\r' then ['\\', 'r']
  else if c = '\t' then ['\\', 't']
  else if c = '\x0c' then ['\\', 'f']
  else if c = '\x08' then ['\\', 'b']
  else if 0x20 ≤ c.toNat ∧ c.toNat ≤ 0x7E then [c]
  else if c.toNat < 0x10000 then unitEscape c.toNat
  else
    unitEscape (0xD800 + (c.toNat - 0x10000) / 0x400) ++
      unitEscape (0xDC00 + (c.toNat - 0x10000) % 0x400)

def writeText (s : String) : List Char :=
  '"' :: s.toList.flatMap escapeChar ++ ['"']

def writeInt (n : Int) : List Char :=
  (if n < 0 then ['-'] else []) ++ Nat.toDigits 10 n.natAbs

def writeNumber : Number → List Char
  | .int n => writeInt n
  | .float x => (x.render doubleStyle).toList

/-- What separates two elements at a level, and what follows the opening bracket. -/
def Layout.lineBreak (l : Layout) (level : Nat) : List Char :=
  match l.indent with
  | some width => '\n' :: List.replicate (width * level) ' '
  | none => []

mutual

def write (l : Layout) (level : Nat) : Json → List Char
  | .null => "null".toList
  | .bool true => "true".toList
  | .bool false => "false".toList
  | .number x => writeNumber x
  | .text s => writeText s
  | .list [] => ['[', ']']
  | .list (x :: xs) =>
    '[' :: l.lineBreak (level + 1) ++ write l (level + 1) x ++ writeElements l (level + 1) xs ++
      l.lineBreak level ++ [']']
  | .map [] => ['{', '}']
  | .map ((k, v) :: es) =>
    '{' :: l.lineBreak (level + 1) ++ writeText k ++ [':', ' '] ++ write l (level + 1) v ++
      writeMembers l (level + 1) es ++ l.lineBreak level ++ ['}']

def writeElements (l : Layout) (level : Nat) : List Json → List Char
  | [] => []
  | x :: xs => ',' :: l.gap ++ l.lineBreak level ++ write l level x ++ writeElements l level xs

def writeMembers (l : Layout) (level : Nat) : List (String × Json) → List Char
  | [] => []
  | (k, v) :: es =>
    ',' :: l.gap ++ l.lineBreak level ++ writeText k ++ [':', ' '] ++ write l level v ++
      writeMembers l level es

end

def print (l : Layout) (v : Json) : String := String.ofList (write l 0 v)

mutual

/-- The same value with the keys of every map in increasing order. -/
def sortKeys : Json → Json
  | .list xs => .list (sortKeysList xs)
  | .map es => .map ((sortKeysEntries es).mergeSort fun a b => decide (a.1 ≤ b.1))
  | v => v

def sortKeysList : List Json → List Json
  | [] => []
  | x :: xs => sortKeys x :: sortKeysList xs

def sortKeysEntries : List (String × Json) → List (String × Json)
  | [] => []
  | (k, v) :: es => (k, sortKeys v) :: sortKeysEntries es

end

def orderText (v : Json) : String := print .inline (sortKeys v)

end FleetPlan.Json
