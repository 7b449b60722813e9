import FleetPlan.Plan.Failure

/-!
Values that are known only later, with the resources they come from.

Combining deferred values joins their sources, and a value computed from a failed one fails with the
same failure. An input is a value at hand or a deferred one; a deferred input counts as given
whatever it holds, and what it holds is looked at only where it is used.
-/
namespace FleetPlan

/-- A resource is known by its type and its name. -/
structure ResourceRef where
  type : String
  name : String
  deriving DecidableEq, Repr

def ResourceRef.text (r : ResourceRef) : String := r.type ++ "::" ++ r.name

structure Deferred (α : Type) where
  outcome : Except Failure α
  sources : List ResourceRef

namespace Deferred

variable {α β : Type}

def pure (a : α) : Deferred α := ⟨.ok a, []⟩

def bind (x : Deferred α) (f : α → Deferred β) : Deferred β :=
  match x.outcome with
  | .ok a =>
    let y := f a
    ⟨y.outcome, x.sources ++ y.sources⟩
  | .error e => ⟨.error e, x.sources⟩

def fail (e : Failure) : Deferred α := ⟨.error e, []⟩

def ofExcept (r : Except Failure α) : Deferred α := ⟨r, []⟩

/-- The answer to a question that only some kinds of values have one to. -/
def ofOption (o : Option α) : Deferred α :=
  match o with
  | some a => pure a
  | none => fail .wrongKind

instance : Monad Deferred where
  pure := Deferred.pure
  bind := Deferred.bind

def all : List (Deferred α) → Deferred (List α)
  | [] => Deferred.pure []
  | d :: ds => do
    let a ← d
    let as ← all ds
    return a :: as

def entries : Entries (Deferred α) → Deferred (Entries α)
  | [] => Deferred.pure []
  | (k, d) :: es => do
    let a ← d
    let as ← entries es
    return (k, a) :: as

@[simp] theorem outcome_pure (a : α) : (Pure.pure a : Deferred α).outcome = .ok a := rfl

@[simp] theorem sources_pure (a : α) : (Pure.pure a : Deferred α).sources = [] := rfl

theorem outcome_bind (x : Deferred α) (f : α → Deferred β) :
    (x >>= f).outcome = x.outcome.bind fun a => (f a).outcome := by
  cases h : x.outcome <;> simp [Bind.bind, Deferred.bind, Except.bind, h]

theorem sources_bind_ok {x : Deferred α} {a : α} (h : x.outcome = .ok a) (f : α → Deferred β) :
    (x >>= f).sources = x.sources ++ (f a).sources := by
  simp [Bind.bind, Deferred.bind, h]

end Deferred

/-- A value at hand, or one that is known only later and may then be anything. -/
inductive Input (α : Type) where
  | now (a : α)
  | later (d : Deferred Json)

namespace Input

variable {α : Type}

/-- The deferred value that an input amounts to, a value at hand being written as data. -/
def resolve (write : α → Deferred Json) : Input α → Deferred Json
  | now a => write a
  | later d => d

@[simp] theorem resolve_now (write : α → Deferred Json) (a : α) :
    (now a).resolve write = write a := rfl

@[simp] theorem resolve_later (write : α → Deferred Json) (d : Deferred Json) :
    (later d : Input α).resolve write = d := rfl

def absent : Input (Option α) := now none

/-- Anything but a missing value at hand; what a deferred input holds plays no part. -/
def isGiven : Input (Option α) → Bool
  | now none => false
  | _ => true

end Input

/-- A text that may be absent. -/
abbrev TextInput := Input (Option String)

/-- A list of texts that may be absent. -/
abbrev ListInput := Input (Option (List (Input String)))

/-- A map of texts that may be absent. -/
abbrev TagsInput := Input (Option (Entries (Input String)))

def Input.element : Input String → Deferred Json := Input.resolve fun s => pure (.text s)

namespace TextInput

/-- Given, and not the empty text at hand. -/
def isTruthy : TextInput → Bool
  | .now none => false
  | .now (some s) => s != ""
  | .later _ => true

def value : TextInput → Deferred Json := Input.resolve fun s => pure (.ofText s)

end TextInput

namespace ListInput

def value : ListInput → Deferred Json := Input.resolve fun
  | none => pure .null
  | some xs => do return .list (← Deferred.all (xs.map Input.element))

def value? (x : ListInput) : Option (Deferred Json) := if x.isGiven then some x.value else none

end ListInput

def TagsInput.value : TagsInput → Deferred Json := Input.resolve fun
  | none => pure .null
  | some es => do return .map (← Deferred.entries (Entries.mapValues Input.element es))

end FleetPlan
