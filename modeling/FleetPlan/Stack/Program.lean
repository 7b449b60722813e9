import FleetPlan.Cluster.Exports
import FleetPlan.Fleet.ManagedGroup
import FleetPlan.Fleet.StackGroup
import FleetPlan.Fleet.TemplateGroup
import FleetPlan.Stack.Provider

/-!
The plan of a whole stack: one provider, a reference to the cluster's stack, and the groups in
order.

Groups are planned one after the other with the same provider and cluster, and a group that fails
keeps later ones from being planned; what the groups before it have exported stays exported.
-/
namespace FleetPlan

def Plan.refer (stack : String) : Plan StackReference := do
  if stack = "" then Plan.fail .notAName
  return .ofSent stack ((← Plan.site).cloud.exports stack)

namespace GroupSpec

/-- Plans a group and gives what the stack exports of it. -/
def planNamed (name : String) (options : GroupOptions) (cluster : ClusterInput)
    (provider : Resource) : Plan (Entries (Deferred Json)) :=
  match options with
  | .managed o => do
    let (_, group) ← ManagedGroup.component name cluster o (some provider)
    return [(name ++ "_node_group_name", group.output "nodeGroupName")]
  | .template o => do
    let (_, group) ← TemplateGroup.component name cluster o (some provider)
    return [
      (name ++ "_security_group_id", group.group.output "id"),
      (name ++ "_auto_scaling_group_name", group.scalingGroup.output "name")]
  | .stack o => do
    let (_, group) ← StackGroup.component name cluster o (some provider)
    return [
      (name ++ "_security_group_id", group.group.output "id"),
      (name ++ "_auto_scaling_group_name", group.scalingGroupName)]

def check (spec : GroupSpec) : Except Failure Unit :=
  match spec.options with
  | .stack o => o.check spec.name.display
  | .template o => o.toWorkerOptions.check spec.name.display
  | .managed o => o.check spec.name.display

/-- Plans a group. A name that is no text is found out once the options are checked. -/
def plan (spec : GroupSpec) (cluster : ClusterInput) (provider : Resource) :
    Plan (Entries (Deferred Json)) :=
  match spec.name with
  | .text name => planNamed name spec.options cluster provider
  | _ => do
    Plan.ofExcept spec.check
    Plan.fail .notAName

end GroupSpec

/-- What comes of a stack: all that it has exported, and the failure that it ended with if it did. -/
structure StackResult where
  exports : Entries (Deferred Json)
  failure : Option Failure

/-- What a stack exports, if nothing stopped it. -/
def StackResult.answer (r : StackResult) : Except Failure (Entries (Deferred Json)) :=
  match r.failure with
  | none => .ok r.exports
  | some e => .error e

/-- A plan that gives what was exported even when it fails. -/
abbrev StackPlan := Site → Traced Event StackResult

namespace StackPlan

def done : StackPlan := fun _ => ⟨⟨[], none⟩, []⟩

/-- Goes on with what a plan gives; if that fails, nothing more is exported. -/
def behind {α : Type} (x : Plan α) (f : α → StackPlan) : StackPlan := fun s =>
  match x s with
  | ⟨.ok a, t⟩ =>
    let y := f a (s.after t)
    ⟨y.answer, t ++ y.trace⟩
  | ⟨.error e, t⟩ => ⟨⟨[], some e⟩, t⟩

/-- Exports something before all that is exported next. -/
def exporting (exports : Entries (Deferred Json)) (x : StackPlan) : StackPlan := fun s =>
  let y := x s
  ⟨⟨Entries.overlay exports y.answer.exports, y.answer.failure⟩, y.trace⟩

end StackPlan

/-- Plans groups in order and collects what the stack exports. -/
def GroupSpec.planAll (cluster : ClusterInput) (provider : Resource) :
    List GroupSpec → StackPlan
  | [] => .done
  | spec :: specs => .behind (spec.plan cluster provider) fun exports =>
    .exporting exports (planAll cluster provider specs)

/-- What all groups of a stack share. -/
structure StackBase where
  provider : Resource
  cluster : Cluster

def StackSettings.base (s : StackSettings) : Plan StackBase := do
  let provider ← s.provider.create
  let reference ← Plan.refer s.clusterStack
  return ⟨provider, reference.cluster⟩

/-- Plans all that a configuration asks for. -/
def runStack (config : Entries String) : StackPlan :=
  .behind (Plan.ofExcept (StackSettings.load config)) fun settings =>
    .behind settings.base fun base =>
      GroupSpec.planAll (.descriptor base.cluster) base.provider settings.groups

/-- Plans a stack and gives what it exports, unless it fails. -/
def planStack (config : Entries String) : Plan (Entries (Deferred Json)) := fun s =>
  let made := runStack config s
  ⟨made.answer.answer, made.trace⟩

end FleetPlan
