import FleetPlan.Node.Capacity
import FleetPlan.Node.Taint
import FleetPlan.Plan.Resource
import FleetPlan.Text.Casing

/-!
Settings: the values a request may hold, plain ones and those that no text can spell out.

A setting amounts to deferred data that comes from all that is deferred inside it.
-/
namespace FleetPlan

/-- The kinds of ready-made blocks. -/
inductive BlockKind where
  | templateTags
  | launchTemplate
  | remoteAccess
  | updatePolicy
  deriving DecidableEq, Repr

namespace BlockKind

def fields : BlockKind → List String
  | templateTags => ["resource_type", "tags"]
  | launchTemplate => ["version", "id", "name"]
  | remoteAccess => ["ec2_ssh_key", "source_security_group_ids"]
  | updatePolicy => ["max_unavailable", "max_unavailable_percentage"]

def neededFields : BlockKind → List String
  | launchTemplate => ["version"]
  | _ => []

end BlockKind

/-- A ready-made part of a resource's properties. -/
structure Block where
  kind : BlockKind
  body : Deferred Json

/-- What a request holds beside plain data. -/
inductive Handle where
  /-- A deferred value, and the resource that it holds if it holds one. -/
  | later (d : Deferred Json) (held : Option Resource)
  | resource (r : Resource)
  | block (b : Block)
  | taint (t : Taint)
  | scaling (b : Bounds)
  /-- An object of another kind, by the name of the kind. -/
  | object (kind : String)

abbrev Setting := Value Handle

/-- What a handle amounts to; a part of a request that was read already is no longer data. -/
def Handle.deferred : Handle → Deferred Json
  | later d _ => d
  | resource r => r.reference
  | block b => b.body
  | taint _ | scaling _ | object _ => .fail .notData

namespace Setting

mutual

def deferred : Setting → Deferred Json
  | .null => pure .null
  | .bool b => pure (.bool b)
  | .number x => pure (.number x)
  | .text s => pure (.text s)
  | .list vs => do return .list (← deferredList vs)
  | .map es => do return .map (← deferredEntries es)
  | .leaf h => h.deferred

def deferredList : List Setting → Deferred (List Json)
  | [] => pure []
  | v :: vs => do
    let a ← deferred v
    let as ← deferredList vs
    return a :: as

def deferredEntries : List (String × Setting) → Deferred (List (String × Json))
  | [] => pure []
  | (k, v) :: es => do
    let a ← deferred v
    let as ← deferredEntries es
    return (k, a) :: as

end

end Setting

namespace Setting

def ofDeferred (d : Deferred Json) : Setting := .leaf (.later d none)

/-- A known value that comes from no resource is at hand. -/
def ofKnown (d : Deferred Json) : Setting :=
  match d.outcome, d.sources with
  | .ok v, [] => v.embed
  | _, _ => ofDeferred d

def resource? : Setting → Option Resource
  | .leaf (.resource r) => some r
  | .leaf (.later _ held) => held
  | _ => none

def postponed (v : Setting) : Setting := .leaf (.later v.deferred v.resource?)

end Setting

/-- Passes if only known fields are among these and all that are needed. -/
def checkKeys (known needed keys : List String) : Except Failure Unit := do
  if let some key := keys.find? fun key => !known.contains key then
    .error (.unknownField key)
  if let some key := needed.find? fun key => !keys.contains key then
    .error (.incomplete key)

/-- Passes if only known fields are given and all that are needed. -/
def checkFields (known needed : List String) (es : Entries Setting) : Except Failure Unit :=
  checkKeys known needed (Entries.keys es)

def Block.ofFields (kind : BlockKind) (es : Entries Setting) : Except Failure Block := do
  checkFields kind.fields kind.neededFields es
  return ⟨kind, Setting.deferred (.map (es.map fun e => (Text.toCamelCase e.1, e.2)))⟩

end FleetPlan
