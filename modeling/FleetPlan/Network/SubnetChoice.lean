import FleetPlan.Network.Route

/-!
The subnets on which workers are placed.

Every subnet is looked up once, in order, up to the first that fails; the private ones are chosen,
and all of them when none is private.
-/
namespace FleetPlan

/-- The subnets of which each is public or private. -/
structure Classified (σ : Type) where
  privateIds : List σ
  publicIds : List σ
  deriving DecidableEq, Repr

variable {σ γ ε : Type}

/-- The private subnets, or the public ones when there are no others. -/
def Classified.chosen (c : Classified σ) : List σ :=
  if c.privateIds.isEmpty then c.publicIds else c.privateIds

def classifySubnets (routesOf : σ → Traced γ (Except ε (List Route))) :
    List σ → Traced γ (Except ε (Classified σ))
  | [] => return .ok ⟨[], []⟩
  | id :: ids => do
    match ← routesOf id with
    | .error e => return .error e
    | .ok routes =>
      match ← classifySubnets routesOf ids with
      | .error e => return .error e
      | .ok c =>
        if hasPublicRoute routes then return .ok { c with publicIds := id :: c.publicIds }
        else return .ok { c with privateIds := id :: c.privateIds }

/-- The private subset of the subnets, or all of them if none is private. -/
def workerSubnets (routesOf : σ → Traced γ (Except ε (List Route))) (ids : List σ) :
    Traced γ (Except ε (List σ)) := do
  match ← classifySubnets routesOf ids with
  | .error e => return .error e
  | .ok c => return .ok c.chosen

/-- The first value that is set among sources asked in turn. -/
def firstSet {m : Type → Type} [Monad m] {α : Type} : List (Unit → m (Option α)) → m (Option α)
  | [] => return none
  | source :: sources => do
    match ← source () with
    | some a => return some a
    | none => firstSet sources

end FleetPlan
