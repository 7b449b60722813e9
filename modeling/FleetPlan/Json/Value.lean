import FleetPlan.Entries
import FleetPlan.Number.Numeral
import FleetPlan.Text.CodePoint

/-!
Values of a data format: scalars, lists and ordered maps, over leaves of a further type.

A `Json` value has no such leaves, and `Json.embed` takes it into the values that have some. Two
values are the same when their numbers, truth values and members agree, whatever the order of a map.
The texts of a value, and the keys of its maps, are ordinary ones unless another kind is named.
-/
namespace FleetPlan

/-- A value of a data format; `α` is what no text of the format can hold. -/
inductive Value (α : Type) (τ : Type := String) where
  | null
  | bool (b : Bool)
  | number (x : Number)
  | text (s : τ)
  | list (xs : List (Value α τ))
  | map (es : List (τ × Value α τ))
  | leaf (a : α)

instance {α τ : Type} : Inhabited (Value α τ) := ⟨.null⟩

abbrev Json (τ : Type := String) := Value Empty τ

namespace Value

variable {α τ : Type}

abbrev int (n : Int) : Value α := .number (.int n)

abbrev float (x : Double) : Value α := .number (.float x)

def ofOption (o : Option (Value α τ)) : Value α τ := o.getD .null

def ofText : Option String → Value α
  | none => .null
  | some s => .text s

def isNull : Value α → Bool
  | .null => true
  | _ => false

/-- Whether a value counts as given: null, false, zero and everything empty do not. -/
def isTruthy [DecidableEq τ] [Texts τ] : Value α τ → Bool
  | .null => false
  | .bool b => b
  | .number (.int n) => n != 0
  | .number (.float x) => !x.isZero
  | .text s => s != Texts.ofString ""
  | .list xs => !xs.isEmpty
  | .map es => !es.isEmpty
  | .leaf _ => true

/-- The member of a map under a key, null when there is none. -/
def member [DecidableEq τ] (v : Value α τ) (key : τ) : Value α τ :=
  match v with
  | .map es => ofOption (Entries.get? es key)
  | _ => .null

def text? : Value α τ → Option τ
  | .text s => some s
  | _ => none

def entries : Value α → Entries (Value α)
  | .map es => es
  | _ => []

def elements : Value α → List (Value α)
  | .list vs => vs
  | _ => []

mutual

/-- Removes the null members of every map, at any depth. -/
def compact : Value α → Value α
  | .list xs => .list (compactList xs)
  | .map es => .map (compactEntries es)
  | v => v

def compactList : List (Value α) → List (Value α)
  | [] => []
  | x :: xs => compact x :: compactList xs

def compactEntries : List (String × Value α) → List (String × Value α)
  | [] => []
  | (k, v) :: es => if v.isNull then compactEntries es else (k, compact v) :: compactEntries es

end

end Value

namespace Json

variable {α : Type}

def resource (name : String) : Json := .map [("$resource", .text name)]

mutual

def embed : Json → Value α
  | .null => .null
  | .bool b => .bool b
  | .number x => .number x
  | .text s => .text s
  | .list xs => .list (embedList xs)
  | .map es => .map (embedEntries es)

def embedList : List Json → List (Value α)
  | [] => []
  | x :: xs => embed x :: embedList xs

def embedEntries : List (String × Json) → List (String × Value α)
  | [] => []
  | (k, v) :: es => (k, embed v) :: embedEntries es

end

/-- Equal as numbers; not-a-number is one value of the format and equals itself. -/
def numbersAgree : Number → Number → Bool
  | .int m, .int n => m == n
  | .int m, .float y => y.sameInt m
  | .float x, .int n => x.sameInt n
  | .float x, .float y => x.same y || (x == .nan && y == .nan)

variable {τ : Type} [DecidableEq τ]

mutual

/-- Equal as values: numbers and truth values by magnitude, maps whatever their order. -/
def same : Json τ → Json τ → Bool
  | .null, .null => true
  | .text s, .text t => s == t
  | .list xs, .list ys => sameList xs ys
  | .map es, .map fs => es.length == fs.length && sameEntries es fs
  | .bool b, w => sameNumber (.int (if b then 1 else 0)) w
  | .number x, w => sameNumber x w
  | _, _ => false

def sameNumber (x : Number) : Json τ → Bool
  | .bool c => numbersAgree x (.int (if c then 1 else 0))
  | .number y => numbersAgree x y
  | _ => false

def sameList : List (Json τ) → List (Json τ) → Bool
  | [], [] => true
  | x :: xs, y :: ys => same x y && sameList xs ys
  | _, _ => false

def sameEntries : List (τ × Json τ) → List (τ × Json τ) → Bool
  | [], _ => true
  | (k, v) :: es, fs =>
    (match Entries.get? fs k with
      | some w => same v w
      | none => false) && sameEntries es fs

end

end Json
end FleetPlan
