import FleetPlan.Json.Value

/-!
Any value read as a collection.

A list has its elements, a text its characters and a map its keys; other values are no collections,
and a question about their members has no answer.
-/
namespace FleetPlan.Json

def items? : Json → Option (List Json)
  | .list vs => some vs
  | .text s => some (s.toList.map fun c => .text (String.singleton c))
  | .map es => some (es.map fun e => .text e.1)
  | _ => none

def occursIn (part : List Char) : List Char → Bool
  | [] => part.isEmpty
  | c :: cs => part.isPrefixOf (c :: cs) || occursIn part cs

/-- Values that cannot be keys of a map, whatever the map. -/
def isKeyless : Json → Bool
  | .list _ => true
  | .map _ => true
  | _ => false

/-- Whether a value is a member of a collection. A text has the texts inside it as members and no
other values; a map can be asked only about what may be a key. -/
def contains? (collection v : Json) : Option Bool :=
  match collection with
  | .list vs => some (vs.any v.same)
  | .map es => if v.isKeyless then none else some (es.any fun e => v.same (.text e.1))
  | .text s => v.text?.map fun part => occursIn part.toList s.toList
  | _ => none

/-- Lays a value over a map: what does not count as given changes nothing, and what is given has to
be a map. -/
def layer? (base : Entries Json) (top : Json) : Option (Entries Json) :=
  if top.isTruthy then
    match top with
    | .map es => some (Entries.overlay base es)
    | _ => none
  else some base

theorem layer?_map (base es : Entries Json) :
    layer? base (.map es) = some (Entries.overlay base es) := by
  cases es <;> rfl

theorem contains?_list (vs : List Json) (v : Json) :
    contains? (.list vs) v = some (vs.any v.same) := rfl

end FleetPlan.Json
