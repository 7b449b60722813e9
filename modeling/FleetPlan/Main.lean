import FleetPlan.Json.Reader
import FleetPlan.Plan.Report
import FleetPlan.Plan.WorldFile
import FleetPlan.Stack.Program

/-!
The command line: reads a configuration from standard input and prints the plan of its stack.

The input is a map with the texts of the configuration under `config` and perhaps a project, a stack
and a world.
-/
namespace FleetPlan.CommandLine

def siteOf (input : Json) : Site where
  project := ((input.member "project").text?).getD "project"
  stack := ((input.member "stack").text?).getD "stack"
  cloud := (World.ofJson (input.member "world")).cloud

def configOf (input : Json) : Entries String :=
  (input.member "config").entries.filterMap fun e => e.2.text?.map fun s => (e.1, s)

def exported (d : Deferred Json) : Json :=
  match d.outcome with
  | .ok v => v
  | .error e => .map [("failed", .text e.message)]

def answer (input : Json) : Json :=
  let made := runStack (configOf input) (siteOf input)
  let report := Report.ofEvents made.trace
  let failed : Entries Json :=
    match made.answer.failure with
    | none => []
    | some e => [("failed", .text e.message)]
  .map (failed ++ [
    ("exports", .map (Entries.mapValues exported made.answer.exports)),
    ("resources", .list report.registrationsJson),
    ("calls", .list report.callsJson),
    ("outputs", .list report.publishedJson),
    ("failures", .list (sortedByText (report.failures.map fun e => .text e.message)))])

end FleetPlan.CommandLine

open FleetPlan in
def main : IO UInt32 := do
  let stdin ← IO.getStdin
  let text ← stdin.readToEnd
  match Json.read? text with
  | none =>
    IO.eprintln "the input is not valid JSON"
    return 1
  | some input =>
    IO.println (Json.print .indented (CommandLine.answer input))
    return 0
