import FleetPlan.Entries
import FleetPlan.Json.Display
import FleetPlan.Node.Taint
import FleetPlan.Text.Base64
import FleetPlan.Text.Blank

/-!
How a node joins its cluster: the arguments of the node's agent and the script that starts it.

Labels and taints follow the explicit arguments as one flag each; several arguments are passed as
one quoted word and a single one without quotes; the script stages the user's own script between
marker lines and may end by signalling a stack.
-/
namespace FleetPlan

/-- The arguments of the node's agent. -/
structure AgentSettings where
  extraArgs : Option String
  labels : Option (Entries String)
  taints : Option (Entries Taint)
  deriving DecidableEq, Repr

namespace AgentSettings

def labelFlag (labels : Entries String) : String :=
  "--node-labels=" ++ ",".intercalate (labels.map fun e => e.1 ++ "=" ++ e.2)

def taintFlag (taints : Entries Taint) : String :=
  "--register-with-taints=" ++
    ",".intercalate (taints.map fun e => e.1 ++ "=" ++ e.2.value ++ ":" ++ e.2.effect.code)

/-- The explicit arguments, then one flag for the labels and one for the taints. -/
def args (s : AgentSettings) : List String :=
  let labels := s.labels.getD []
  let taints := s.taints.getD []
  Text.words (s.extraArgs.getD "") ++
    (if labels.isEmpty then [] else [labelFlag labels]) ++
    (if taints.isEmpty then [] else [taintFlag taints])

end AgentSettings

/-- What follows the cluster name on the bootstrap command line: extra arguments, then the agent's
arguments, in quotes when there are several. -/
def bootstrapTail (extraArgs : Option String) (agentArgs : List String) : String :=
  let extra :=
    match extraArgs with
    | none => ""
    | some e => if e.isEmpty then "" else " " ++ e
  match agentArgs with
  | [] => extra
  | [arg] => extra ++ " --kubelet-extra-args " ++ arg
  | args => extra ++ " --kubelet-extra-args '" ++ " ".intercalate args ++ "'"

/-- A stack that is told how a script ended. -/
structure Signal where
  stack : Json
  region : Json

/-- What a bootstrap script is made of; each value is shown as a message would show it. -/
structure BootstrapScript where
  cluster : Json
  endpoint : Json
  authority : Json
  tail : String
  userScript : Json
  marker : Json
  signal : Option Signal

namespace BootstrapScript

def endLine (marker : Json) : String := marker.display ++ "-user-data"

/-- Stages the user's script, if one is given, and runs it. -/
def staged (marker script : Json) : String :=
  if script.isTruthy then
    "cat >/opt/user-data <<" ++ endLine marker ++ "\n" ++ script.display ++ "\n" ++
      endLine marker ++ "\n" ++ "chmod +x /opt/user-data\n" ++ "/opt/user-data\n"
  else ""

def signalLine : Option Signal → String
  | none => ""
  | some s =>
    "/opt/aws/bin/cfn-signal --exit-code $? --stack " ++ s.stack.display ++
      " --resource NodeGroup --region " ++ s.region.display ++ "\n"

def render (b : BootstrapScript) : String :=
  "#!/bin/bash\n\n/etc/eks/bootstrap.sh --apiserver-endpoint \"" ++ b.endpoint.display ++
    "\" --b64-cluster-ca \"" ++ b.authority.display ++ "\" \"" ++ b.cluster.display ++ "\"" ++
    b.tail ++ "\n" ++ staged b.marker b.userScript ++ "\n" ++ signalLine b.signal

end BootstrapScript
end FleetPlan
