import FleetPlan.Json.Printer
import FleetPlan.Plan.Basic

/-!
What happened while a plan was made, as data.

Each kind of event is listed by itself, in the order of its written form.
-/
namespace FleetPlan

/-- Values in the order of their written forms. -/
def sortedByText (vs : List Json) : List Json :=
  (vs.map fun v => (Json.orderText v, v)).mergeSort (fun a b => decide (a.1 ≤ b.1)) |>.map (·.2)

/-- Values without repetition, in the order of their written forms. -/
def distinctByText (vs : List Json) : List Json :=
  (sortedByText vs).foldr
    (fun v rest =>
      match rest with
      | [] => [v]
      | w :: _ => if Json.orderText v = Json.orderText w then rest else v :: rest)
    []

namespace Registration

def waitsFor (x : Registration) : List String :=
  (x.dependsOn.map ResourceRef.text).mergeSort fun a b => decide (a ≤ b)

def inputsJson (x : Registration) : Json :=
  .map (x.inputs.map fun e =>
    (e.1, if x.secret.contains e.1 then .map [("$secret", e.2)] else e.2))

def toJson (x : Registration) : Json := .map [
  ("type", .text x.ref.type),
  ("name", .text x.ref.name),
  ("parent", .text ((x.parent.map ResourceRef.text).getD "")),
  ("provider", .text (x.provider.getD "")),
  ("depends_on", .list (x.waitsFor.map Value.text)),
  ("inputs", x.inputsJson)]

end Registration

def Call.toJson (c : Call) : Json := .map [
  ("function", .text c.question.name),
  ("args", .map (Json.wireEntries c.question.arguments)),
  ("provider", .text (c.provider.getD ""))]

/-- What happened, each kind of event by itself. -/
structure Report where
  registrations : List Registration
  calls : List Call
  published : List (ResourceRef × Entries Json)
  failures : List Failure

namespace Report

def ofEvents (events : List Event) : Report where
  registrations := events.filterMap fun
    | .registered r => some r
    | _ => none
  calls := events.filterMap fun
    | .asked c => some c
    | _ => none
  published := events.filterMap fun
    | .published ref outputs => some (ref, outputs)
    | _ => none
  failures := events.filterMap fun
    | .refused _ _ _ e => some e
    | .unpublished _ e => some e
    | _ => none

def callsJson (r : Report) : List Json := sortedByText (r.calls.map Call.toJson)

def publishedJson (r : Report) : List Json :=
  sortedByText <| r.published.map fun p =>
    .map [("resource", .text p.1.text), ("outputs", .map p.2)]

def registrationsJson (r : Report) : List Json :=
  sortedByText (r.registrations.map Registration.toJson)

end Report
end FleetPlan
