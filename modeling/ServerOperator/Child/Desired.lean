import ServerOperator.Child.Kind
import ServerOperator.Resource.Server

/-!
The children as they are created for a server. They find each other by label, name and port: the
route leads to the service by its name, the service to the deployment's pods by their label, and
each step names the port `http` of the next.
-/

namespace ServerOperator

/-- The label that all children and the pods carry; its value is the server's name. -/
def ownerLabel : String := "opendatahub.io/mcp-server"

def ownerLabels (serverName : String) : Labels :=
  [(ownerLabel, serverName)]

def ownerSelector (serverName : String) : String :=
  ownerLabel ++ "=" ++ serverName

/-- What the children of a server are made from. -/
structure Blueprint where
  key : Key
  owner : Option OwnerReference
  spec : ServerSpec
deriving DecidableEq, Inhabited

def defaultCommand : List String :=
  ["./kubernetes-mcp-server"]

def defaultArgs : List String :=
  ["--port", "8000", "--log-level", "9"]

/-- A replacement counts if there is something in it. -/
def effective (replacement : Option (List String)) (otherwise : List String) : List String :=
  match replacement with
  | some (first :: rest) => first :: rest
  | _ => otherwise

def ServerSpec.effectiveCommand (spec : ServerSpec) : List String :=
  effective spec.command defaultCommand

def ServerSpec.effectiveArgs (spec : ServerSpec) : List String :=
  effective spec.args defaultArgs

def portName : String := "http"

def portNumber : Int32 := 8000

namespace Blueprint

def labels (blueprint : Blueprint) : Labels :=
  ownerLabels blueprint.key.name

/-- The metadata that all three children share. -/
def metadata (blueprint : Blueprint) : Metadata :=
  { Metadata.empty with
    name := some blueprint.key.name
    namespaceName := some blueprint.key.namespaceName
    labels := some blueprint.labels
    ownerReferences := blueprint.owner.map fun owner => [owner] }

def container (blueprint : Blueprint) : Container where
  name := "mcp-server"
  image := some blueprint.spec.image
  command := some blueprint.spec.effectiveCommand
  args := some blueprint.spec.effectiveArgs
  ports := some [{
    name := some portName
    containerPort := portNumber
    protocol := some "TCP" }]

def deployment (blueprint : Blueprint) : Deployment where
  metadata := blueprint.metadata
  spec := some {
    replicas := none
    selector := ⟨some blueprint.labels⟩
    template := {
      metadata := some { Metadata.empty with labels := some blueprint.labels }
      spec := some ⟨[blueprint.container]⟩ } }
  status := none

def service (blueprint : Blueprint) : Service where
  metadata := blueprint.metadata
  spec := some {
    type := some "ClusterIP"
    selector := some blueprint.labels
    ports := some [{
      name := some portName
      port := portNumber
      targetPort := some (.name portName)
      protocol := some "TCP" }] }
  status := none

def route (blueprint : Blueprint) : Route where
  metadata := blueprint.metadata
  spec := {
    host := none
    path := some "/sse"
    target := { kind := "Service", name := blueprint.key.name, weight := none }
    port := some ⟨.name portName⟩ }
  status := none

def child (blueprint : Blueprint) : (kind : ChildKind) → kind.Object
  | .deployment => blueprint.deployment
  | .service => blueprint.service
  | .route => blueprint.route

theorem metadata_child (blueprint : Blueprint) (kind : ChildKind) :
    kind.metadata (blueprint.child kind) = blueprint.metadata := by
  cases kind <;> rfl

@[simp]
theorem key_child (blueprint : Blueprint) (kind : ChildKind) :
    kind.key (blueprint.child kind) = blueprint.key := by
  cases kind <;> rfl

end Blueprint

end ServerOperator
