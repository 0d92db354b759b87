import ServerOperator.Cluster.Basic
import ServerOperator.Http.Response
import ServerOperator.Settings
import ServerOperator.Watch.Ownership

/-!
Scenarios: what happens around a controller while it runs. All times are in milliseconds from its
start.
-/

namespace ServerOperator.Controller

/-- An object that was added, changed or deleted, at a time at which the watches tell so. -/
structure Event where
  time : Nat
  kind : Kind
  object : kind.Object
  deleted : Bool

namespace Event

def key (event : Event) : Key :=
  event.kind.key event.object

def apply (event : Event) (cluster : Cluster) : Cluster :=
  if event.deleted then cluster.erase event.kind event.key
  else cluster.insert event.kind event.key event.object

end Event

/-- A time in which the cluster refuses the requests of one sort. -/
structure Outage where
  kind : Kind
  method : String
  code : UInt16
  reason : String
  begins : Nat
  ends : Nat

namespace Outage

def concerns (outage : Outage) (call : Call) (sent : Nat) : Bool :=
  outage.kind = call.kind && outage.method = call.method &&
    outage.begins ≤ sent && sent < outage.ends

def error (outage : Outage) (call : Call) : ClusterError :=
  Cluster.refusal (outage.kind.name ++ " " ++ call.key.text) outage.reason outage.code

end Outage

structure Scenario where
  settings : Settings
  cluster : Cluster
  events : List Event
  outages : List Outage
  /-- How long a request takes before it has its effect and is answered. -/
  latency : Nat
  deadline : Nat
  clock : Nat → String

/-- How a server record is known to the controller: by its name and its namespace, if it has one. -/
structure Reference where
  namespaceName : Option String
  name : String
deriving DecidableEq, Repr, Inhabited

namespace Reference

def ofMetadata (metadata : Metadata) : Reference :=
  ⟨metadata.namespaceName, metadata.key.name⟩

def ofOwnerKey (key : Key) : Reference :=
  ⟨some key.namespaceName, key.name⟩

def key (reference : Reference) : Key :=
  ⟨reference.namespaceName.getD Metadata.defaultNamespace, reference.name⟩

/-- The server that is looked at again when an object changes. -/
def triggered? : (kind : Kind) → kind.Object → Option Reference
  | .server, server => some (ofMetadata server.metadata)
  | .child kind, child => (kind.metadata child).ownerKey?.map ofOwnerKey

end Reference

end ServerOperator.Controller
