import FleetPlan.Request.Fault

/-!
Values read from a request, or everything that is wrong with them.

Reading two parts reports the faults of both, the first part's first, and succeeds exactly when both
parts do.
-/
namespace FleetPlan

abbrev Checked (α : Type) := Except (List FieldFault) α

namespace Checked

variable {α β γ : Type}

def refuse (kind : FaultKind) : Checked α := .error [⟨[], kind⟩]

def refuseAll (kinds : List FaultKind) : Checked α := .error (kinds.map fun k => ⟨[], k⟩)

def both : Checked α → Checked β → Checked (α × β)
  | .ok a, .ok b => .ok (a, b)
  | .ok _, .error fs => .error fs
  | .error fs, .ok _ => .error fs
  | .error fs, .error gs => .error (fs ++ gs)

/-- Applies a function of which some arguments are read to one more. -/
def apply (f : Checked (α → β)) (x : Checked α) : Checked β :=
  (both f x).map fun p => p.1 p.2

def within (step : PathStep) : Checked α → Checked α
  | .ok a => .ok a
  | .error fs => .error (fs.map (FieldFault.within step))

def faults : Checked α → List FieldFault
  | .ok _ => []
  | .error fs => fs

def withFaults (x : Checked α) (more : List FieldFault) : Checked α :=
  match x, more with
  | .ok a, [] => .ok a
  | .ok _, fs => .error fs
  | .error fs, gs => .error (fs ++ gs)

theorem faults_apply (f : Checked (α → β)) (x : Checked α) :
    (apply f x).faults = f.faults ++ x.faults := by
  cases f <;> cases x <;> simp [apply, both, faults, Except.map]

theorem apply_eq_ok {f : Checked (α → β)} {x : Checked α} {b : β} :
    apply f x = .ok b ↔ ∃ g a, f = .ok g ∧ x = .ok a ∧ g a = b := by
  cases f <;> cases x <;> simp [apply, both, Except.map]

theorem faults_within (step : PathStep) (x : Checked α) :
    (within step x).faults = x.faults.map (FieldFault.within step) := by
  cases x <;> simp [within, faults]

end Checked
end FleetPlan
