import ServerOperator.Json.Basic

/-!
Schemas: which documents the cluster lets through. A schema is itself written as a document.
-/

namespace ServerOperator

open Json

/-- A schema says what form a document has. `described` and `titled` only explain it; a `nullable`
document may also be `null`. -/
inductive Schema where
  | text
  | choice (names : List String)
  | list (items : Schema)
  | record (properties : List (String × Schema)) (required : List String)
  | nullable (schema : Schema)
  | described (description : String) (schema : Schema)
  | titled (title : String) (schema : Schema)
deriving Inhabited

namespace Schema

mutual

/-- The schema as the members of a document, in ascending order of the names. -/
def members : Schema → List (String × Json)
  | text => [("type", string "string")]
  | choice names => [("enum", strings names), ("type", string "string")]
  | list items => [("items", object (members items)), ("type", string "array")]
  | record properties required =>
      [("properties", object (propertyMembers properties))] ++
        (if required.isEmpty then [] else [("required", strings required)]) ++
        [("type", string "object")]
  | nullable schema => insertSorted "nullable" (bool true) (members schema)
  | described description schema =>
      insertSorted "description" (string description) (members schema)
  | titled title schema => insertSorted "title" (string title) (members schema)

def propertyMembers : List (String × Schema) → List (String × Json)
  | [] => []
  | (name, schema) :: rest => (name, object (members schema)) :: propertyMembers rest

end

def toJson (schema : Schema) : Json :=
  object schema.members

mutual

/-- Whether a document has the form. Members that are no property may hold anything. -/
def accepts : Schema → Json → Bool
  | text, string _ => true
  | choice names, string name => names.contains name
  | list items, array documents => documents.all (accepts items)
  | record properties required, object held =>
      required.all (fun name => (held.map Prod.fst).contains name) &&
        acceptsProperties properties held
  | nullable _, null => true
  | nullable schema, document => accepts schema document
  | described _ schema, document => accepts schema document
  | titled _ schema, document => accepts schema document
  | _, _ => false

/-- Whether the members that have a property's name have its form, for each of the properties. -/
def acceptsProperties : List (String × Schema) → List (String × Json) → Bool
  | [], _ => true
  | (name, schema) :: rest, held =>
      held.all (fun member => member.1 ≠ name || accepts schema member.2) &&
        acceptsProperties rest held

end

end Schema

end ServerOperator
