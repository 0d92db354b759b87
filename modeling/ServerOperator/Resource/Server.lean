import ServerOperator.Resource.Condition
import ServerOperator.Resource.Metadata

/-!
Servers: the records that users write. A record asks for one server to be run; its status tells what
became of that.
-/

namespace ServerOperator

open Json

def serverGroup : String := "mcpserver.opendatahub.io"

def serverApiVersion : String := serverGroup ++ "/v1"

def serverKind : String := "MCPServer"

/-- What is to be run. `command` and `args` replace the built-in ones. -/
structure ServerSpec where
  image : String
  command : Option (List String)
  args : Option (List String)
deriving DecidableEq, Repr, Inhabited

namespace ServerSpec

def decoder : Decoder ServerSpec :=
  .record true "MCPServerSpec" default [
    .required "image" .string fun value spec => { spec with image := value },
    .defaulted "command" (.nullable (.list .string)) fun value spec =>
      { spec with command := value },
    .defaulted "args" (.nullable (.list .string)) fun value spec => { spec with args := value }]

def toJson (spec : ServerSpec) : Json :=
  object (
    optionalMember "args" strings spec.args ++
    optionalMember "command" strings spec.command ++
    [("image", string spec.image)])

end ServerSpec

structure ServerStatus where
  conditions : List Condition
deriving DecidableEq, Repr, Inhabited

namespace ServerStatus

def empty : ServerStatus := ⟨[]⟩

def decoder : Decoder ServerStatus :=
  .record true "MCPServerStatus" empty [
    .defaulted "conditions" (.list Condition.decoder) fun value status =>
      { status with conditions := value }]

def toJson (status : ServerStatus) : Json :=
  object (listMember "conditions" Condition.toJson status.conditions)

end ServerStatus

structure Server where
  metadata : Metadata
  spec : ServerSpec
  status : Option ServerStatus
deriving DecidableEq, Inhabited

namespace Server

def decoder : Decoder Server :=
  .record true "MCPServer" ⟨.empty, default, none⟩ [
    .required "metadata" Metadata.decoder fun value server => { server with metadata := value },
    .required "spec" ServerSpec.decoder fun value server => { server with spec := value },
    .optional "status" (.nullable ServerStatus.decoder) fun value server =>
      { server with status := value }]

def toJson (server : Server) : Json :=
  object (
    [("apiVersion", string serverApiVersion), ("kind", string serverKind),
      ("metadata", server.metadata.toJson), ("spec", server.spec.toJson)] ++
    optionalMember "status" ServerStatus.toJson server.status)

/-- The reference by which a server's objects name it as the one that controls them. A record
without a name or uid cannot own anything. -/
def controllerReference? (server : Server) : Option OwnerReference := do
  let name ← server.metadata.name
  let uid ← server.metadata.uid
  return {
    apiVersion := serverApiVersion
    kind := serverKind
    name := name
    uid := uid
    controller := some true
    blockOwnerDeletion := none }

theorem controllerReference?_eq_none_iff {server : Server} :
    server.controllerReference? = none ↔
      server.metadata.name = none ∨ server.metadata.uid = none := by
  unfold controllerReference?
  cases server.metadata.name with
  | none => simp
  | some name => cases server.metadata.uid <;> simp

end Server

end ServerOperator
