import FleetPlan.Digest.Sha1
import FleetPlan.Json.Collection
import FleetPlan.Json.Printer
import FleetPlan.Node.Capacity
import FleetPlan.Node.Tags
import FleetPlan.Plan.Failure

/-!
The stack template of a group of nodes and the name of its stack.

A template declares one autoscaling group and one output that refers to it; the name of a stack is
that of the group and eight digits drawn from the project, the stack and the group.
-/
namespace FleetPlan

/-- The name of the group among a template's resources and outputs. -/
def groupKey : String := "NodeGroup"

structure GroupTemplate where
  launchConfiguration : Json
  capacity : Capacity
  subnets : List Json
  tags : Entries Json

namespace GroupTemplate

def tag (e : String × Json) : Json :=
  .map [("Key", .text e.1), ("Value", e.2), ("PropagateAtLaunch", .text "true")]

def properties (t : GroupTemplate) : Json :=
  .map [
    ("DesiredCapacity", .int t.capacity.range.desired),
    ("LaunchConfigurationName", t.launchConfiguration),
    ("MinSize", .int t.capacity.range.least),
    ("MaxSize", .int t.capacity.range.most),
    ("VPCZoneIdentifier", .list t.subnets),
    ("Tags", .list (t.tags.map tag))]

def updatePolicy (t : GroupTemplate) : Json :=
  .map [("AutoScalingRollingUpdate",
    .map [("MinInstancesInService", .text (toString t.capacity.inService)),
      ("MaxBatchSize", .text "1")])]

def toJson (t : GroupTemplate) : Json :=
  .map [
    ("AWSTemplateFormatVersion", .text "2010-09-09"),
    ("Outputs", .map [(groupKey, .map [("Value", .map [("Ref", .text groupKey)])])]),
    ("Resources", .map [(groupKey, .map [
      ("Type", .text "AWS::AutoScaling::AutoScalingGroup"),
      ("Properties", t.properties),
      ("UpdatePolicy", t.updatePolicy)])])]

def text (t : GroupTemplate) : String := Json.print .indented t.toJson

end GroupTemplate

def stackName (project stack group : String) : String :=
  let digits := Digest.Sha1.hexOfText (project ++ "/" ++ stack ++ "/" ++ group)
  group ++ "-" ++ String.ofList (digits.take 8)

/-- An output of a stack, which has to be there. Outputs that are no map have none to give. -/
def stackOutput (stack : String) (outputs : Json) (key : String) : Except Failure Json :=
  if outputs.isTruthy then
    match outputs with
    | .map es =>
      match Entries.get? es key with
      | some v => .ok v
      | none => .error (.malformedStackOutput stack key)
    | _ =>
      if outputs.contains? (.text key) = some false then .error (.malformedStackOutput stack key)
      else .error .wrongKind
  else .error (.malformedStackOutput stack key)

end FleetPlan
