import FleetPlan.Entries

/-!
Machine images of nodes.

An explicit family wins over the flag for graphics processors, and the recommended image of a family
is published as a parameter whose name holds the version and the family.
-/
namespace FleetPlan

def imageFamily (explicit : Option String) (gpu : Bool) : String :=
  let fallback := if gpu then "amazon-linux-2-gpu" else "amazon-linux-2"
  match explicit with
  | none => fallback
  | some family => if family.isEmpty then fallback else family

/-- The parameter that holds the recommended image of a family. -/
def imageParameter (version family : String) : String :=
  "/aws/service/eks/optimized-ami/" ++ version ++ "/" ++ family ++ "/recommended/image_id"

end FleetPlan
