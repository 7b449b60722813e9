import FleetPlan.Stack.ConfigFault

/-!
Why a plan fails.

A failure is a cause with the values it concerns; the text for the reader is one function of it.
-/
namespace FleetPlan

inductive Failure where
  /-- Options that exclude each other were given together. -/
  | conflict (fields : List String) (reason : String)
  /-- No source provides something that is needed. -/
  | missing (fields : List String) (reason : String)
  /-- The cluster does not admit nodes of this role. -/
  | roleNotAuthorized (arn : Json)
  /-- A template stack lacks an output. -/
  | malformedStackOutput (stack key : String)
  /-- The surroundings of a subnet could not be looked up. -/
  | lookup (subject reason : String)
  /-- The configuration cannot be understood. -/
  | config (fault : ConfigFault)
  /-- The fields of a request cannot be read. -/
  | invalidFields (faults : List FieldFault)
  /-- The cloud refused a question. -/
  | callFailed (token reason : String)
  /-- Something else was given as a cluster. -/
  | notACluster (kind : String)
  /-- A setting without a default is absent. -/
  | missingSetting (key : String)
  /-- The cluster's stack does not export a value. -/
  | missingExport (key : String)
  /-- A resource needs a text, and not the empty one, as its name. -/
  | notAName
  /-- A property or part that has to be there is not. -/
  | incomplete (key : String)
  /-- A property or part that is not known was given. -/
  | unknownField (key : String)
  /-- A value is of a kind that its place cannot take. -/
  | wrongKind
  /-- A list stands where a property has another form. -/
  | wrongShape
  /-- An object stands where data is needed. -/
  | notData
  /-- Names that are not all texts are repeated. -/
  | repeatedNonTexts
  /-- An image lists no block device. -/
  | noDevice
  /-- Not-a-number has no integer part. -/
  | notANumber
  /-- An infinite number has no integer part. -/
  | infiniteNumber
  /-- An integer is larger than any number that can be sent. -/
  | integerTooLarge
  /-- A value lacks the part that was asked of it. -/
  | noSuchPart

namespace Failure

/-- What a conflict or a missing prerequisite says: the fields, then the reason. -/
def aboutFields (fields : List String) (reason : String) : String :=
  " / ".intercalate fields ++ ": " ++ reason

def refusal (token reason : String) : String :=
  "invoke of " ++ token ++ " failed: " ++ reason

def message : Failure → String
  | conflict fields reason => aboutFields fields reason
  | missing fields reason => aboutFields fields reason
  | roleNotAuthorized arn =>
    "A managed node group cannot be created without first setting its role " ++
      "in the cluster's instance roles: " ++ arn.display ++ " is not registered"
  | malformedStackOutput stack key =>
    "CloudFormation stack " ++ stack ++ " is not ready. Stack output key '" ++ key ++
      "' does not exist."
  | lookup subject reason => "Lookup of " ++ subject ++ " failed: " ++ reason
  | config fault => fault.message
  | callFailed token reason => refusal token reason
  | notACluster kind =>
    "expected a ClusterCore or an object with a 'core' attribute, got " ++ kind
  | _ => ""

end Failure
end FleetPlan
