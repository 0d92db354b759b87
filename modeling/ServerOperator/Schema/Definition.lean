import ServerOperator.Http.Request
import ServerOperator.Schema.Server
import ServerOperator.Yaml.Block

/-!
The definition of server records: the document that makes a cluster know them.
-/

namespace ServerOperator

open Json

structure PrinterColumn where
  name : String
  jsonPath : String
deriving DecidableEq, Repr

namespace PrinterColumn

def toJson (column : PrinterColumn) : Json :=
  object [("jsonPath", string column.jsonPath), ("name", string column.name),
    ("type", string "string")]

/-- Shows a field of the overall condition. -/
def ofOverall (name field : String) : PrinterColumn :=
  ⟨name, ".status.conditions[?(@.type==\"" ++ ConditionType.available.name ++ "\")]." ++ field⟩

def all : List PrinterColumn :=
  [⟨"Image", ".spec.image"⟩, ofOverall "Available" "status", ofOverall "Reason" "reason"]

end PrinterColumn

namespace Server

/-- Server records have one version. Their status is written apart from the rest. -/
def version : Json :=
  object [
    ("additionalPrinterColumns", array (PrinterColumn.all.map PrinterColumn.toJson)),
    ("name", string "v1"),
    ("schema", object [("openAPIV3Schema", schema.toJson)]),
    ("served", bool true),
    ("storage", bool true),
    ("subresources", object [("status", object [])])]

def names : Json :=
  object [
    ("categories", array []),
    ("kind", string serverKind),
    ("plural", string Kind.server.plural),
    ("shortNames", strings ["mcps"]),
    ("singular", string "mcpserver")]

def definition : Json :=
  object [
    ("apiVersion", string "apiextensions.k8s.io/v1"),
    ("kind", string "CustomResourceDefinition"),
    ("metadata", object [("name", string (Kind.server.plural ++ "." ++ serverGroup))]),
    ("spec", object [
      ("group", string serverGroup),
      ("names", names),
      ("scope", string "Namespaced"),
      ("versions", array [version])])]

def definitionText : String :=
  definition.block

end Server

end ServerOperator
