import FleetPlan.Json.Token

/-!
Reading a JSON text, as a machine that takes one token at a time.

The machine holds the lists and maps that are still open, takes a token only where the grammar
allows it, and accepts when one value is complete and nothing is open. A repeated key keeps its
first place and takes its last value.
-/
namespace FleetPlan.Json

variable {τ : Type}

/-- A list or map that is still open, with its finished part: elements in reverse, or entries
and the key whose value is due. -/
inductive Frame (τ : Type := String) where
  | list (done : List (Json τ))
  | map (done : Entries (Json τ) τ) (key : τ)

/-- What the machine waits for. -/
inductive State (τ : Type := String) where
  | value (stack : List (Frame τ))
  | firstElement (stack : List (Frame τ))
  | key (stack : List (Frame τ)) (done : Entries (Json τ) τ) (closable : Bool)
  | colon (stack : List (Frame τ)) (done : Entries (Json τ) τ) (key : τ)
  | complete (stack : List (Frame τ)) (v : Json τ)

def State.begin (stack : List (Frame τ)) : Token τ → Option (State τ)
  | .null => some (.complete stack .null)
  | .bool b => some (.complete stack (.bool b))
  | .number x => some (.complete stack (.number x))
  | .text s => some (.complete stack (.text s))
  | .openList => some (.firstElement stack)
  | .openMap => some (.key stack [] true)
  | _ => none

variable [DecidableEq τ]

def State.step : State τ → Token τ → Option (State τ)
  | .value stack, t => State.begin stack t
  | .firstElement stack, .closeList => some (.complete stack (.list []))
  | .firstElement stack, t => State.begin (.list [] :: stack) t
  | .key stack done _, .text k => some (.colon stack done k)
  | .key stack done true, .closeMap => some (.complete stack (.map done))
  | .key _ _ _, _ => none
  | .colon stack done k, .colon => some (.value (.map done k :: stack))
  | .colon _ _ _, _ => none
  | .complete (.list done :: stack) v, .comma => some (.value (.list (v :: done) :: stack))
  | .complete (.list done :: stack) v, .closeList =>
    some (.complete stack (.list (v :: done).reverse))
  | .complete (.map done k :: stack) v, .comma => some (.key stack (Entries.put done k v) false)
  | .complete (.map done k :: stack) v, .closeMap =>
    some (.complete stack (.map (Entries.put done k v)))
  | .complete _ _, _ => none

def State.run : State τ → List (Token τ) → Option (State τ)
  | s, [] => some s
  | s, t :: ts => (s.step t).bind fun s => s.run ts

def ofTokens? (ts : List (Token τ)) : Option (Json τ) :=
  match State.run (.value []) ts with
  | some (.complete [] v) => some v
  | _ => none

variable [Texts τ]

/-- The value that a row of glyphs spells, with its texts of the kind that is asked for. Half of a
character is a code point, but stands in no ordinary text. -/
def spelled? {σ : Type} [Glyph σ] (ss : List σ) : Option (Json τ) := (tokens ss).bind ofTokens?

def read? (s : String) : Option (Json τ) := spelled? s.toList

@[simp] theorem spelled?_toList (s : String) :
    spelled? s.toList = (read? s : Option (Json τ)) := rfl

end FleetPlan.Json
