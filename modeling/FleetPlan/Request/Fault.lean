/-!
What can be wrong with the fields of a request.

A fault names the place of the offending value, from the outermost field inward, and its kind; every
kind has one code.
-/
namespace FleetPlan

/-- One step on the way to a value: into a field or map entry, or into a list. -/
inductive PathStep where
  | key (name : String)
  | index (i : Nat)
  deriving DecidableEq, Repr

inductive FaultKind where
  | unknownField
  | missing
  | notText
  | notFlag
  | unreadableFlag
  | notInteger
  | unreadableInteger
  | fractional
  | notFinite
  | integerTooLarge
  | belowLeast
  | notDouble
  | unreadableDouble
  | notAChoice
  | notAList
  | notAMap
  | notARecord
  | wrongObject
  deriving DecidableEq, Repr

def FaultKind.code : FaultKind → String
  | unknownField => "extra_forbidden"
  | missing => "missing"
  | notText => "string_type"
  | notFlag => "bool_type"
  | unreadableFlag => "bool_parsing"
  | notInteger => "int_type"
  | unreadableInteger => "int_parsing"
  | fractional => "int_from_float"
  | notFinite => "finite_number"
  | integerTooLarge => "int_parsing_size"
  | belowLeast => "greater_than_equal"
  | notDouble => "float_type"
  | unreadableDouble => "float_parsing"
  | notAChoice => "enum"
  | notAList => "list_type"
  | notAMap => "dict_type"
  | notARecord => "model_type"
  | wrongObject => "is_instance_of"

structure FieldFault where
  path : List PathStep
  kind : FaultKind
  deriving DecidableEq, Repr

def FieldFault.within (step : PathStep) (f : FieldFault) : FieldFault :=
  { f with path := step :: f.path }

end FleetPlan
