import FleetPlan.Plan.History
import FleetPlan.Plan.Outputs

/-!
Plans: what is registered and asked for at a site, in order, with a result or a failure.

A plan that fails keeps what it did before; a resource whose registration fails does not stop the
plan but fails with all that uses it; what is planned behind a deferred value happens only when the
value is known. The second of two plans is made at a site that remembers the first.
-/
namespace FleetPlan

/-- Where a plan is made: the project, the stack, the cloud and what happened there before. -/
structure Site where
  project : String
  stack : String
  cloud : Cloud
  past : History := []

def Site.after (s : Site) (more : History) : Site := { s with past := s.past ++ more }

theorem Site.after_after (s : Site) (more rest : History) :
    (s.after more).after rest = s.after (more ++ rest) := by
  simp [Site.after]

theorem Site.after_nil (s : Site) : s.after [] = s := by
  simp [Site.after]

def Plan (α : Type) : Type := Site → Traced Event (Except Failure α)

namespace Plan

variable {α β : Type}

def pure (a : α) : Plan α := fun _ => ⟨.ok a, []⟩

def bind (x : Plan α) (f : α → Plan β) : Plan β := fun site =>
  match x site with
  | ⟨.ok a, t⟩ =>
    let y := f a (site.after t)
    ⟨y.answer, t ++ y.trace⟩
  | ⟨.error e, t⟩ => ⟨.error e, t⟩

instance : Monad Plan where
  pure := Plan.pure
  bind := Plan.bind

theorem bind_of_ok {x : Plan α} {s : Site} {a : α} (h : (x s).answer = .ok a) (f : α → Plan β) :
    (x >>= f) s =
      ⟨(f a (s.after (x s).trace)).answer, (x s).trace ++ (f a (s.after (x s).trace)).trace⟩ := by
  show Plan.bind x f s = _
  unfold Plan.bind
  generalize x s = r at h
  obtain ⟨answer, trace⟩ := r
  cases h
  rfl

/-- A failure ends a plan with what it did before. -/
theorem bind_of_error {x : Plan α} {s : Site} {e : Failure} (h : (x s).answer = .error e)
    (f : α → Plan β) : (x >>= f) s = ⟨.error e, (x s).trace⟩ := by
  show Plan.bind x f s = _
  unfold Plan.bind
  generalize x s = r at h
  obtain ⟨answer, trace⟩ := r
  cases h
  rfl

def fail (e : Failure) : Plan α := fun _ => ⟨.error e, []⟩

def ofExcept : Except Failure α → Plan α
  | .ok a => pure a
  | .error e => fail e

def site : Plan Site := fun s => ⟨.ok s, []⟩

def emit (e : Event) : Plan Unit := fun _ => ⟨.ok (), [e]⟩

/-- Registers a resource. A failure of what it relies on becomes its own. -/
def register (d : Draft) : Plan Resource := do
  if d.name = "" then fail .notAName
  if d.placement.isSound = false then fail .noSuchPart
  let here ← site
  match d.settle here.past with
  | .error e =>
    emit (.refused d.ref (d.placement.parent.map Resource.ref) d.isComponent e)
    return ⟨d.ref, .error e, d.isComponent, d.placement.server, d.offered⟩
  | .ok r =>
    emit (.registered r)
    let urn := d.ref.urn here.project here.stack r.parent
    return ⟨d.ref, .ok (d.outputs urn (here.cloud.outputs d.ref r.inputs)), d.isComponent,
      d.placement.server, d.offered⟩

/-- Makes a component's outputs known, unless one of them fails. -/
def publish (component : Resource) (outputs : Entries (Deferred Json)) : Plan Unit :=
  match component.failure?, settleProperties outputs with
  | some e, _ => emit (.unpublished component.ref e)
  | none, .error e => emit (.unpublished component.ref e)
  | none, .ok settled =>
    emit (.published component.ref (Json.wireEntries (Entries.mapValues (·.1) settled)))

def callOf (placement : Placement) (q : Question) : Call :=
  ⟨q, placement.parent.map Resource.ref, placement.server.map Provider.name⟩

/-- Asks the cloud; a refusal stops the plan, and so does a provider that does not exist. -/
def ask (placement : Placement) (q : Question) (answer : Cloud → Except String α) : Plan α := do
  ofExcept (Failure.check (placement.server.bind Provider.failure))
  if q.isWellFormed = false then fail .wrongShape
  if Json.entriesSendable q.arguments = false then fail .integerTooLarge
  emit (.asked (callOf placement q))
  match answer (← site).cloud with
  | .ok a => return a
  | .error reason => fail (.callFailed q.token reason)

/-- Asks for a text. What does not count as given is an answer too. -/
def askText (placement : Placement) (q : Question) (answer : Cloud → Except String Json) :
    Plan Json := do
  let v ← ask placement q answer
  if v.isTruthy ∧ v.text?.isNone then fail .wrongKind
  return v.wire

/-- Goes on once a value is known; a failure on the way is that of the result. -/
def whenKnown (d : Deferred α) (f : α → Plan (Deferred β)) : Plan (Deferred β) := fun s =>
  match d.outcome with
  | .error e => ⟨.ok ⟨.error e, d.sources⟩, []⟩
  | .ok a =>
    match f a s with
    | ⟨.ok b, t⟩ => ⟨.ok ⟨b.outcome, d.sources ++ b.sources⟩, t⟩
    | ⟨.error e, t⟩ => ⟨.ok ⟨.error e, d.sources⟩, t⟩

/-- A plan whose failure is that of its result. -/
def deferred (x : Plan α) : Plan (Deferred α) := whenKnown (Pure.pure ()) fun _ => do
  return Pure.pure (← x)

end Plan
end FleetPlan
