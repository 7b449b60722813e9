import FleetPlan.Json.Value

/-!
Values as they travel to the cloud and back.

A number travels as a double, and one that is too large for any double cannot be sent; a map arrives
without its null members and without the keys that are kept for the carrier's own use.
-/
namespace FleetPlan.Json

/-- Two underscores mark a key of the carrier's own. -/
def isReserved (key : String) : Bool := "__".toList.isPrefixOf key.toList

/-- The nearest double. -/
def wireNumber : Number → Double
  | .int n => Double.ofRatio (n < 0) n.natAbs 1
  | .float x => x

/-- Integers beyond all doubles cannot travel. -/
def fitsWire : Number → Bool
  | .int n => !(Double.ofRatio (n < 0) n.natAbs 1).isInfinite
  | .float _ => true

mutual

def wire : Json → Json
  | .number x => .float (wireNumber x)
  | .list vs => .list (wireList vs)
  | .map es => .map (wireEntries es)
  | v => v

def wireList : List Json → List Json
  | [] => []
  | v :: vs => wire v :: wireList vs

def wireEntries : List (String × Json) → List (String × Json)
  | [] => []
  | (k, v) :: es =>
    if v.isNull || isReserved k then wireEntries es else (k, wire v) :: wireEntries es

end

mutual

def isSendable : Json → Bool
  | .number x => fitsWire x
  | .list vs => areSendable vs
  | .map es => entriesSendable es
  | _ => true

def areSendable : List Json → Bool
  | [] => true
  | v :: vs => isSendable v && areSendable vs

def entriesSendable : List (String × Json) → Bool
  | [] => true
  | (_, v) :: es => isSendable v && entriesSendable es

end

theorem wire_text (s : String) : wire (.text s) = .text s := by simp [wire]

theorem wire_null : wire .null = .null := by simp [wire]

end FleetPlan.Json
