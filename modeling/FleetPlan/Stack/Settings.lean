import FleetPlan.Stack.GroupList

/-!
Settings of a stack of groups.

The cluster's stack has to be named; a region that is missing or empty is replaced by a fixed one;
the groups are read before the tags.
-/
namespace FleetPlan

structure StackSettings where
  clusterStack : String
  region : String
  roleArn : Option String
  /-- A secret that is shown to the owner of the role. -/
  externalId : Option String
  groups : List GroupSpec
  tags : Entries String

namespace StackSettings

def regionOf (configured : Option String) : String :=
  match configured with
  | none => "us-east-1"
  | some r => if r.isEmpty then "us-east-1" else r

/-- Reads the settings from the texts of a configuration. -/
def load (config : Entries String) : Except Failure StackSettings := do
  match Entries.get? config "clusterStack" with
  | none => .error (.missingSetting "clusterStack")
  | some clusterStack =>
    let groups ← GroupSpec.parseList (Entries.get? config "nodeGroups")
    let tags ← (parseTags (Entries.get? config "tags")).mapError Failure.config
    return {
      clusterStack := clusterStack
      region := regionOf (Entries.get? config "awsRegion")
      roleArn := Entries.get? config "assumeRoleArn"
      externalId := Entries.get? config "externalId"
      groups := groups
      tags := tags }

end StackSettings
end FleetPlan
