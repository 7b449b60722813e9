import FleetPlan.Json.Collection

/-!
Tags of the resources that make up a group of nodes.

Tags come in layers, each laid over those below it; a later layer wins on a key and new keys follow
in their order. A layer that is not given changes nothing, and one that is given has to be a map,
whose values may be anything.
-/
namespace FleetPlan.Tags

/-- The tag that marks a resource as owned by a cluster. -/
def ownership (cluster : String) : String × Json :=
  ("kubernetes.io/cluster/" ++ cluster, .text "owned")

/-- The tags of every worker: its name and its cluster, then the user's. -/
def workers (cluster : String) (tags : Json) : Option (Entries Json) :=
  Json.layer? (Entries.ofPairs [("Name", .text (cluster ++ "-worker")), ownership cluster]) tags

/-- The tags that a cluster puts on the groups of its nodes: those for groups, then its own. -/
def ofCluster (forGroups own : Json) : Option (Entries Json) :=
  (Json.layer? [] forGroups).bind fun base => Json.layer? base own

/-- The tags of a group's own security group: its name and its cluster, then the given ones. -/
def securityGroup (group cluster : String) (tags : Entries Json) : Entries Json :=
  Entries.overlay
    (Entries.ofPairs [("Name", .text (group ++ "-nodeSecurityGroup")), ownership cluster]) tags

/-- The tags of a group's stack: its name, then those asked for, then the cluster's. -/
def stack (group : String) (asked cluster : Json) : Option (Entries Json) :=
  (Json.layer? [("Name", .text (group ++ "-nodes"))] asked).bind fun base =>
    Json.layer? base cluster

/-- Tags as a list, each passed on to the instances that are launched. -/
def propagated (tags : Entries Json) : List (Entries Json) :=
  tags.map fun e => [("key", .text e.1), ("value", e.2), ("propagateAtLaunch", .bool true)]

end FleetPlan.Tags
