import FleetPlan.Json.Value
import FleetPlan.Number.Shortest
import FleetPlan.Text.Quoted

/-!
Values as messages and tags show them.

A text on its own is shown as it is; inside a list or a map it is quoted. Truth values and null have
capitals, and doubles keep a digit behind the point.
-/
namespace FleetPlan.Json

def displayNumber : Number → String
  | .int n => toString n
  | .float x => x.text

mutual

def displayInner : Json → String
  | .null => "None"
  | .bool true => "True"
  | .bool false => "False"
  | .number x => displayNumber x
  | .text s => Text.quoted s
  | .list [] => "[]"
  | .list (x :: xs) => "[" ++ displayInner x ++ displayElements xs ++ "]"
  | .map [] => "\x7b\x7d"
  | .map ((k, v) :: es) =>
    "\x7b" ++ Text.quoted k ++ ": " ++ displayInner v ++ displayMembers es ++ "\x7d"

def displayElements : List Json → String
  | [] => ""
  | x :: xs => ", " ++ displayInner x ++ displayElements xs

def displayMembers : List (String × Json) → String
  | [] => ""
  | (k, v) :: es => ", " ++ Text.quoted k ++ ": " ++ displayInner v ++ displayMembers es

end

def display : Json → String
  | .text s => s
  | v => displayInner v

end FleetPlan.Json
