import FleetPlan.Json.Wire
import FleetPlan.Plan.Deferred

/-!
Resources of a plan and what is recorded when one is registered.

An output of a resource comes from that resource alone, and a resource whose registration failed has
outputs that fail the same way. A resource hands the provider that it was given, or that it stands
below, down to what is placed under it, whether or not it is served by that provider itself.
-/
namespace FleetPlan

/-- What serves resources and answers questions, or why it cannot. -/
structure Provider where
  name : String
  failure : Option Failure

/-- A resource with what it puts out, or why its registration failed. -/
structure Resource where
  ref : ResourceRef
  outputs : Except Failure (Entries Json)
  /-- Stands for its children and exists only in the plan. -/
  isComponent : Bool := false
  /-- The provider of what is placed under it. -/
  provider : Option Provider := none
  /-- The outputs that may be asked for beside the id and the unique name. -/
  offered : List String := []

namespace ResourceRef

def isOfCloud (r : ResourceRef) : Bool := "aws:".toList.isPrefixOf r.type.toList

def isProvider (r : ResourceRef) : Bool := "pulumi:providers:".toList.isPrefixOf r.type.toList

end ResourceRef

namespace Resource

/-- An output, null when it is not set. -/
def output (r : Resource) (key : String) : Deferred Json :=
  ⟨r.outputs.map fun es => .ofOption (Entries.get? es key), [r.ref]⟩

def id (r : Resource) : Deferred Json := r.output "id"

/-- An output that may be asked for; a component has no id. -/
def output? (r : Resource) (key : String) : Option (Deferred Json) :=
  if key = "urn" ∨ (key = "id" ∧ r.isComponent = false) ∨ key ∈ r.offered then some (r.output key)
  else none

/-- A resource as data: the cloud's own and providers stand for themselves, a component goes by its
unique name, and any other resource by its id. -/
def reference (r : Resource) : Deferred Json :=
  if r.isComponent then r.output "urn"
  else if r.ref.isOfCloud || r.ref.isProvider then do
    let _ ← r.id
    return Json.resource r.ref.name
  else r.id

def failure? (r : Resource) : Option Failure :=
  match r.outputs with
  | .ok _ => none
  | .error e => some e

def asProvider (r : Resource) : Provider := ⟨r.ref.name, r.failure?⟩

@[simp] theorem sources_output (r : Resource) (key : String) :
    (r.output key).sources = [r.ref] := rfl

end Resource

/-- Where a resource or a question belongs: below a parent, with a provider of its own. -/
structure Placement where
  parent : Option Resource
  provider : Option Resource

namespace Placement

def top : Placement := ⟨none, none⟩

/-- Only a provider can be given as one. -/
def isSound (p : Placement) : Bool := p.provider.all fun r => r.ref.isProvider

/-- The provider in effect: the given one, and otherwise the one that the parent hands down. -/
def server (p : Placement) : Option Provider :=
  (p.provider.map Resource.asProvider).or (p.parent.bind Resource.provider)

end Placement

/-- What is asked for when a resource is registered. -/
structure Draft where
  type : String
  name : String
  placement : Placement
  properties : Entries (Deferred Json)
  /-- Resources to wait for beyond those that the properties come from. -/
  after : Deferred (List Resource) := pure []
  /-- Stands for its children and exists only in the plan. -/
  isComponent : Bool := false
  /-- Properties that are not shown in the open. -/
  secret : List String := []
  /-- Properties that travel as texts, in which numbers stay as they are. -/
  written : List String := []

namespace Draft

def ref (d : Draft) : ResourceRef := ⟨d.type, d.name⟩

/-- The provider that serves the resource; providers serve the resources of one cloud only. -/
def server (d : Draft) : Option Provider := if d.ref.isOfCloud then d.placement.server else none

/-- The provider without which the resource cannot be registered; a component needs the one that
it is given to hand down. -/
def neededProvider (d : Draft) : Option Provider :=
  if d.isComponent then d.placement.provider.map Resource.asProvider else d.server

def isSendable (d : Draft) (properties : Entries Json) : Bool :=
  Json.entriesSendable (properties.filter fun e => !d.written.contains e.1)

def arriving (d : Draft) (properties : Entries Json) : Entries Json :=
  (properties.filter fun e => !Json.isReserved e.1).map fun e =>
    (e.1, if d.written.contains e.1 then e.2.compact else e.2.wire)

end Draft

/-- A resource that was registered. -/
structure Registration where
  ref : ResourceRef
  isComponent : Bool
  parent : Option ResourceRef
  provider : Option String
  /-- The resources that have to exist before this one. -/
  dependsOn : List ResourceRef
  inputs : Entries Json
  secret : List String

/-- The properties that are not null, each with the resources it comes from. -/
def settleProperties :
    Entries (Deferred Json) → Except Failure (Entries (Json × List ResourceRef))
  | [] => .ok []
  | (k, d) :: ps =>
    match d.outcome, settleProperties ps with
    | .error e, _ => .error e
    | .ok _, .error e => .error e
    | .ok v, .ok rest => .ok (if v.isNull then rest else (k, v, d.sources) :: rest)

/-- Passes unless there is a failure. -/
def Failure.check : Option Failure → Except Failure Unit
  | none => .ok ()
  | some e => .error e

end FleetPlan
