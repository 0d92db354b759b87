import ServerOperator.Decoder.Record
import ServerOperator.Resource.Key

/-!
The metadata that every object carries: what it is called, who owns it, how it is labelled.
-/

namespace ServerOperator

open Json

structure OwnerReference where
  apiVersion : String
  kind : String
  name : String
  uid : String
  controller : Option Bool
  blockOwnerDeletion : Option Bool
deriving DecidableEq, Repr, Inhabited

namespace OwnerReference

def decoder : Decoder OwnerReference :=
  .record false "OwnerReference" default [
    .standard "apiVersion" .string fun value reference =>
      { reference with apiVersion := value.getD "" },
    .standard "blockOwnerDeletion" .bool fun value reference =>
      { reference with blockOwnerDeletion := value },
    .standard "controller" .bool fun value reference => { reference with controller := value },
    .standard "kind" .string fun value reference => { reference with kind := value.getD "" },
    .standard "name" .string fun value reference => { reference with name := value.getD "" },
    .standard "uid" .string fun value reference => { reference with uid := value.getD "" }]

def toJson (reference : OwnerReference) : Json :=
  object (
    [("apiVersion", string reference.apiVersion)] ++
    optionalMember "blockOwnerDeletion" bool reference.blockOwnerDeletion ++
    optionalMember "controller" bool reference.controller ++
    [("kind", string reference.kind), ("name", string reference.name),
      ("uid", string reference.uid)])

end OwnerReference

/-- Labels and annotations: texts by name, in ascending order of the names. -/
abbrev Labels := List (String × String)

def Labels.decoder : Decoder Labels :=
  .dictionary .string

def Labels.toJson (labels : Labels) : Json :=
  object (labels.map fun label => (label.1, string label.2))

/-- Points in time are kept as they were written. -/
structure Metadata where
  annotations : Option Labels
  creationTimestamp : Option String
  deletionTimestamp : Option String
  finalizers : Option (List String)
  generateName : Option String
  generation : Option Int64
  labels : Option Labels
  name : Option String
  namespaceName : Option String
  ownerReferences : Option (List OwnerReference)
  resourceVersion : Option String
  uid : Option String
deriving DecidableEq, Inhabited

namespace Metadata

def empty : Metadata :=
  ⟨none, none, none, none, none, none, none, none, none, none, none, none⟩

def instant : Decoder String :=
  .stringCalled "an RFC 3339 formatted date and time string"

def decoder : Decoder Metadata :=
  .record false "ObjectMeta" empty [
    .standard "annotations" Labels.decoder fun value metadata =>
      { metadata with annotations := value },
    .standard "creationTimestamp" instant fun value metadata =>
      { metadata with creationTimestamp := value },
    .standard "deletionTimestamp" instant fun value metadata =>
      { metadata with deletionTimestamp := value },
    .standard "finalizers" (.list .string) fun value metadata =>
      { metadata with finalizers := value },
    .standard "generateName" .string fun value metadata => { metadata with generateName := value },
    .standard "generation" .int64 fun value metadata => { metadata with generation := value },
    .standard "labels" Labels.decoder fun value metadata => { metadata with labels := value },
    .standard "name" .string fun value metadata => { metadata with name := value },
    .standard "namespace" .string fun value metadata => { metadata with namespaceName := value },
    .standard "ownerReferences" (.list OwnerReference.decoder) fun value metadata =>
      { metadata with ownerReferences := value },
    .standard "resourceVersion" .string fun value metadata =>
      { metadata with resourceVersion := value },
    .standard "uid" .string fun value metadata => { metadata with uid := value }]

def toJson (metadata : Metadata) : Json :=
  object (
    optionalMember "annotations" Labels.toJson metadata.annotations ++
    optionalMember "creationTimestamp" string metadata.creationTimestamp ++
    optionalMember "deletionTimestamp" string metadata.deletionTimestamp ++
    optionalMember "finalizers" strings metadata.finalizers ++
    optionalMember "generateName" string metadata.generateName ++
    optionalMember "generation" (fun value => integer value.toInt) metadata.generation ++
    optionalMember "labels" Labels.toJson metadata.labels ++
    optionalMember "name" string metadata.name ++
    optionalMember "namespace" string metadata.namespaceName ++
    optionalMember "ownerReferences" (fun references =>
      array (references.map OwnerReference.toJson)) metadata.ownerReferences ++
    optionalMember "resourceVersion" string metadata.resourceVersion ++
    optionalMember "uid" string metadata.uid)

def defaultNamespace : String := "default"

def namespaceOrDefault (metadata : Metadata) : String :=
  metadata.namespaceName.getD defaultNamespace

/-- The key of an object that carries this metadata. A generated name counts only where there is no
name. -/
def key (metadata : Metadata) : Key where
  namespaceName := metadata.namespaceOrDefault
  name := (metadata.name <|> metadata.generateName).getD ""

end Metadata

end ServerOperator
