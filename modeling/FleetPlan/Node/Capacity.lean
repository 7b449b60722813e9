import FleetPlan.Json.Value

/-!
How many nodes a group has.

Bounds that are not set take their default, and only a group with a bidding price may have no
instance in service during an update.
-/
namespace FleetPlan

/-- Bounds on the number of nodes, each perhaps left to a default. -/
structure Bounds where
  desired : Option Int
  least : Option Int
  most : Option Int
  deriving DecidableEq, Repr

/-- Bounds on the number of nodes. -/
structure Range where
  desired : Int
  least : Int
  most : Int
  deriving DecidableEq, Repr

/-- Two nodes, between one and two. -/
def Range.small : Range := ⟨2, 1, 2⟩

/-- Fills in what is not set. -/
def Bounds.fill (b : Bounds) (defaults : Range) : Range :=
  ⟨b.desired.getD defaults.desired, b.least.getD defaults.least, b.most.getD defaults.most⟩

/-- The bounds of a group and the number of its instances that stay in service during an
update. -/
structure Capacity where
  range : Range
  inService : Int
  deriving DecidableEq, Repr

/-- Instances that were bid for may all be gone during an update. -/
def Capacity.of (b : Bounds) (bidding : Bool) (defaults : Range) : Capacity :=
  ⟨b.fill defaults, if bidding then 0 else 1⟩

def Range.scaling (r : Range) : Json :=
  .map [("desiredSize", .int r.desired), ("minSize", .int r.least), ("maxSize", .int r.most)]

end FleetPlan
