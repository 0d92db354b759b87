import ServerOperator.Child.Desired
import ServerOperator.Http.Request

/-!
The requests by which changes are watched: each kind is listed once and then watched from there on.
Children are selected by the label that all of them carry.
-/

namespace ServerOperator.Kind

/-- A text inside a query: all but letters, digits and a few marks is written in hexadecimal. -/
def encodedInQuery (text : String) : String :=
  String.ofList (text.toUTF8.toList.flatMap fun byte =>
    let character := Char.ofNat byte.toNat
    if byte < 0x80 ∧ (character.isAlphanum ∨ character ∈ ['*', '-', '.', '_']) then [character]
    else if byte = 0x20 then ['+']
    else
      let hex (digit : Nat) : Char := (Nat.digitChar digit).toUpper
      ['%', hex (byte.toNat / 16), hex (byte.toNat % 16)])

/-- Restricts the children to those that carry the owner label. -/
def selectorParameter : Kind → String
  | server => ""
  | child _ => "&labelSelector=" ++ encodedInQuery ownerLabel

def listRequest (kind : Kind) (namespaceName : Option String) : String :=
  kind.collection namespaceName ++ "?" ++ kind.selectorParameter ++ "&limit=500"

def watchRequest (kind : Kind) (namespaceName : Option String) (version : String) : String :=
  kind.collection namespaceName ++ "?&watch=true&timeoutSeconds=290" ++ kind.selectorParameter ++
    "&allowWatchBookmarks=true&resourceVersion=" ++ version

end ServerOperator.Kind
