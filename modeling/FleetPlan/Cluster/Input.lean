import FleetPlan.Cluster.Descriptor

/-!
What may be given where a cluster is wanted: a description, an object that holds one, or a deferred
one of these.

Deferral around the input or around what an object holds is removed; anything else is refused by the
name of its kind.
-/
namespace FleetPlan

inductive ClusterInput where
  | descriptor (c : Cluster)
  /-- An object of some kind with something in the place of its description. -/
  | holder (kind : String) (content : ClusterInput)
  | later (sources : List ResourceRef) (x : ClusterInput)
  | failed (sources : List ResourceRef) (e : Failure)
  /-- Any other value, by the name of its kind. -/
  | other (kind : String)

/-- The name of the kind of a value, as a refusal gives it. -/
def Json.kindName : Json → String
  | .null => "NoneType"
  | .bool _ => "bool"
  | .number (.int _) => "int"
  | .number (.float _) => "float"
  | .text _ => "str"
  | .list _ => "list"
  | .map _ => "dict"

namespace ClusterInput

/-- Deferred data in the place of a description. -/
def ofData (d : Deferred Json) : ClusterInput :=
  match d.outcome with
  | .ok v => .later d.sources (.other v.kindName)
  | .error e => .failed d.sources e

def kindName : ClusterInput → String
  | descriptor _ => "ClusterCore"
  | holder kind _ => kind
  | later _ x => x.kindName
  | failed _ _ => ""
  | other kind => kind

def settle : ClusterInput → Deferred ClusterInput
  | later sources x =>
    let d := x.settle
    ⟨d.outcome, sources ++ d.sources⟩
  | failed sources e => ⟨.error e, sources⟩
  | x => pure x

/-- Takes a description out of the object that holds it. -/
def open? : ClusterInput → Deferred ClusterInput
  | descriptor c => pure (.descriptor c)
  | holder _ (descriptor c) => pure (.descriptor c)
  | holder _ (later sources x) => (later sources x).settle
  | holder _ (failed sources e) => (failed sources e).settle
  | x => .fail (.notACluster x.kindName)

def resolve (x : ClusterInput) : Deferred ClusterInput := x.settle >>= open?

def cluster (x : ClusterInput) : Deferred Cluster := do
  match ← x.resolve with
  | descriptor c => return c
  | _ => .fail .noSuchPart

end ClusterInput

/-- What a part of a deferred description amounts to; it comes from what the description and the
part come from. -/
def Deferred.part (d : Deferred Cluster) (get : Cluster → Part) : Deferred Json := do
  (get (← d)).deferred

end FleetPlan
