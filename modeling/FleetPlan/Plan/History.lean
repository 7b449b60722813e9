import FleetPlan.Plan.Cloud

/-!
What has happened in the making of a plan, and what a resource is registered as behind it.

A component that others wait for stands for all that was tried below it so far: if one of its
descendants failed, so does whatever waits for the component, and a component with nothing below it
keeps nobody waiting.
-/
namespace FleetPlan

/-- What happens while a plan is made. -/
inductive Event where
  | registered (r : Registration)
  /-- A registration failed. -/
  | refused (ref : ResourceRef) (parent : Option ResourceRef) (isComponent : Bool) (e : Failure)
  | asked (c : Call)
  /-- A component makes its outputs known. -/
  | published (component : ResourceRef) (outputs : Entries Json)
  /-- A component could not make its outputs known. -/
  | unpublished (component : ResourceRef) (e : Failure)

/-- A resource whose registration was tried. -/
structure Attempt where
  ref : ResourceRef
  parent : Option ResourceRef
  isComponent : Bool
  failure : Option Failure

namespace Event

def attempt? : Event → Option Attempt
  | registered r => some ⟨r.ref, r.parent, r.isComponent, none⟩
  | refused ref parent isComponent e => some ⟨ref, parent, isComponent, some e⟩
  | _ => none

end Event

abbrev History := List Event

namespace History

def attempts (past : History) : List Attempt := past.filterMap Event.attempt?

def children (past : History) (ref : ResourceRef) : List Attempt :=
  past.attempts.filter fun a => a.parent = some ref

/-- A resource that a known value comes from; no such resource has failed. -/
def find (past : History) (ref : ResourceRef) : Attempt :=
  ⟨ref, none, past.attempts.any fun a => a.ref = ref && a.isComponent, none⟩

/-- The resources to wait for instead of one, at most `fuel` levels below it. -/
def standIns (past : History) : Nat → Attempt → Except Failure (List ResourceRef)
  | 0, a => .ok [a.ref]
  | fuel + 1, a =>
    if a.isComponent then do
      let below ← (past.children a.ref).mapM (standIns past fuel)
      return below.flatten
    else
      match a.failure with
      | none => .ok [a.ref]
      | some e => .error e

/-- The resources to wait for instead of several, each once. -/
def expand (past : History) (waited : List Attempt) : Except Failure (List ResourceRef) := do
  let refs ← waited.mapM (past.standIns (past.length + 1))
  return refs.flatten.eraseDups

theorem attempts_append (past more : History) :
    (past ++ more).attempts = past.attempts ++ more.attempts := by
  simp [attempts, List.filterMap_append]

theorem children_append (past more : History) (ref : ResourceRef) :
    (past ++ more).children ref = past.children ref ++ more.children ref := by
  simp [children, attempts_append]

end History

def Resource.attempt (r : Resource) : Attempt := ⟨r.ref, none, r.isComponent, r.failure?⟩

/-- What a draft is registered as, once all it relies on is known: the parent, the provider, the
properties and the resources to wait for. -/
def Draft.settle (past : History) (d : Draft) : Except Failure Registration := do
  Failure.check (d.placement.parent.bind Resource.failure?)
  Failure.check (d.neededProvider.bind Provider.failure)
  let properties ← settleProperties d.properties
  let values := d.ref.spelled (Entries.mapValues (·.1) properties)
  if d.ref.accepts values = false then .error .wrongShape
  if d.isSendable values = false then .error .integerTooLarge
  let after ← d.after.outcome
  let sources := properties.flatMap (·.2.2) ++ d.after.sources
  let waited ← past.expand (sources.map past.find ++ after.map Resource.attempt)
  return {
    ref := d.ref
    isComponent := d.isComponent
    parent := d.placement.parent.map Resource.ref
    provider := d.server.map Provider.name
    dependsOn := waited.filter (· ≠ d.ref)
    inputs := d.arriving values
    secret := d.secret
  }

end FleetPlan
