import FleetPlan.Json.Value

/-!
Taints, which keep work off a node unless it tolerates them.

An effect has one code for the node itself and one for groups that the cloud manages; neither code
is shared by two effects.
-/
namespace FleetPlan

inductive TaintEffect where
  | noSchedule
  | noExecute
  | preferNoSchedule
  deriving DecidableEq, Repr

namespace TaintEffect

def all : List TaintEffect := [noSchedule, noExecute, preferNoSchedule]

def code : TaintEffect → String
  | noSchedule => "NoSchedule"
  | noExecute => "NoExecute"
  | preferNoSchedule => "PreferNoSchedule"

def managedCode : TaintEffect → String
  | noSchedule => "NO_SCHEDULE"
  | noExecute => "NO_EXECUTE"
  | preferNoSchedule => "PREFER_NO_SCHEDULE"

end TaintEffect

structure Taint where
  value : String
  effect : TaintEffect
  deriving DecidableEq, Repr

/-- The taints of a managed group; no taints are left out altogether. -/
def managedTaints : Option (Entries Taint) → Json
  | none => .null
  | some [] => .null
  | some (t :: ts) => .list <| (t :: ts).map fun e =>
    .map [("key", .text e.1), ("value", .text e.2.value), ("effect", .text e.2.effect.managedCode)]

end FleetPlan
