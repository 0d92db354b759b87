import ServerOperator.Resource.Server
import ServerOperator.Schema.Basic

/-!
The schema of server records. It says the same as their decoder: what it lets through can be read.
Of the metadata it says nothing, since the cluster looks after them itself.
-/

namespace ServerOperator

open Schema

def ServerSpec.schema : Schema :=
  record [
    ("args",
      described "Argument override; defaults to the port flag when omitted or empty"
        (nullable (list text))),
    ("command",
      described "Entrypoint override; the built-in launcher is used when omitted or empty"
        (nullable (list text))),
    ("image", described "OCI image reference of the MCP server container" text)]
    ["image"]

def Condition.schema : Schema :=
  record [
    ("lastTransitionTime", nullable text),
    ("message", text),
    ("reason", text),
    ("status", choice (ConditionStatus.all.map ConditionStatus.name)),
    ("type", choice (ConditionType.all.map ConditionType.name))]
    ["message", "reason", "status", "type"]

def ServerStatus.schema : Schema :=
  record [
    ("conditions",
      described
        "K8s-style conditions (DeploymentAvailable/ServiceAvailable/RouteAvailable/Available)"
        (list Condition.schema))]
    []

def Server.schema : Schema :=
  titled serverKind <|
    described "Auto-generated derived type for MCPServerSpec via \x60CustomResource\x60" <|
      record [("spec", ServerSpec.schema), ("status", nullable ServerStatus.schema)] ["spec"]

end ServerOperator
