import FleetPlan.Plan.Failure

/-!
Root volumes of nodes.

One type of volume takes provisioned operations per second and needs them, another takes a
provisioned throughput and needs it, and no other type takes either; both are positive whole
numbers.
-/
namespace FleetPlan

inductive VolumeType where
  | standard
  | gp2
  | gp3
  | st1
  | sc1
  | io1
  deriving DecidableEq, Repr

namespace VolumeType

def all : List VolumeType := [standard, gp2, gp3, st1, sc1, io1]

def code : VolumeType → String
  | standard => "standard"
  | gp2 => "gp2"
  | gp3 => "gp3"
  | st1 => "st1"
  | sc1 => "sc1"
  | io1 => "io1"

end VolumeType

namespace Number

def isPositiveWhole : Number → Bool
  | .int n => 0 < n
  | .float x => x.isPositive && x.isWhole

def toInt : Number → Except Failure Int
  | .int n => .ok n
  | .float .nan => .error .notANumber
  | .float x =>
    match x.truncate? with
    | some n => .ok n
    | none => .error .infiniteNumber

def toInt? : Option Number → Except Failure (Option Int)
  | none => .ok none
  | some x => x.toInt.map some

end Number

structure RootVolume where
  size : Int
  deleteOnTermination : Bool
  encrypted : Bool
  iops : Option Number
  throughput : Option Number
  type : VolumeType
  deriving DecidableEq, Repr

namespace RootVolume

def iopsFields : List String := ["node_root_volume_iops", "node_root_volume_type"]

def throughputFields : List String := ["node_root_volume_throughput", "node_root_volume_type"]

/-- An amount that is given and is a positive whole number. -/
def isProvisioned (x : Option Number) : Bool :=
  match x with
  | none => false
  | some x => x.isPositiveWhole

/-- Checks that only `io1` has provisioned operations and only `gp3` a provisioned throughput. -/
def check (v : RootVolume) : Except Failure Unit :=
  if v.iops.isSome ∧ v.type ≠ .io1 then
    .error (.conflict iopsFields
      "Cannot create a cluster node root volume of non-io1 type with provisioned IOPS.")
  else if v.type = .io1 ∧ isProvisioned v.iops = false then
    .error (.conflict iopsFields
      ("Cannot create a cluster node root volume of io1 type without provisioned IOPS " ++
        "as integer value."))
  else if v.throughput.isSome ∧ v.type ≠ .gp3 then
    .error (.conflict throughputFields
      "Cannot create a cluster node root volume of non-gp3 type with provisioned throughput.")
  else if v.type = .gp3 ∧ isProvisioned v.throughput = false then
    .error (.conflict throughputFields
      ("Cannot create a cluster node root volume of gp3 type without provisioned throughput " ++
        "as integer value."))
  else .ok ()

end RootVolume
end FleetPlan
