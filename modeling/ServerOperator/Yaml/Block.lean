import ServerOperator.Json.Basic
import ServerOperator.Number.Shortest

/-!
The block text of a document: a line per scalar, with nesting shown by indentation. The dashes of a
list stand as far in as the name that it belongs to.
-/

namespace ServerOperator.Yaml

/-- Words that would be read as something else than a string, written in small letters. -/
def reservedWords : List String :=
  ["", "~", "null", "true", "false", "yes", "no", "on", "off", "y", "n", ".nan", ".inf", "-.inf",
    "+.inf"]

def indicators : List Char :=
  "-?:,[]\x7b\x7d#&*!|>\x27\"%@\x60".toList

def mayBeNumber (text : String) : Bool :=
  match text.toList with
  | [] => false
  | first :: rest =>
      (first.isDigit || ['+', '-', '.'].contains first) &&
        rest.all fun character => character.isAlphanum || ['+', '-', '.', '_'].contains character

/-- A colon before a blank, or a blank before a number sign: either would end a plain scalar. -/
def hasBreak : List Char → Bool
  | ':' :: ' ' :: _ => true
  | [':'] => true
  | ' ' :: '#' :: _ => true
  | [' '] => true
  | _ :: rest => hasBreak rest
  | [] => false

/-- A plain scalar has no marks around it, so it must read as the string it stands for. -/
def isPlain (text : String) : Bool :=
  let characters := text.toList
  !reservedWords.contains text.toLower && !(mayBeNumber text && characters.any Char.isDigit) &&
    !hasBreak characters &&
    characters.head?.all fun first => first ≠ ' ' && !indicators.contains first

/-- A string that is not plain stands between single quotes, and holds each of them twice. -/
def stringText (text : String) : String :=
  if isPlain text then text
  else
    let doubled := text.toList.flatMap fun character =>
      if character = '\x27' then ['\x27', '\x27'] else [character]
    String.ofList ('\x27' :: doubled ++ ['\x27'])

def indentation (depth : Nat) : String :=
  String.ofList (List.replicate (2 * depth) ' ')

/-- What stands where a document is given in place: on the same line, or on the lines below. -/
inductive Placed where
  | inline (text : String)
  | below (lines : List String)
deriving Repr

/-- The lines of an item of a list: the dash takes the place of the first indentation. -/
def dashed (depth : Nat) : Placed → List String
  | .inline text => [indentation depth ++ "- " ++ text]
  | .below [] => []
  | .below (first :: rest) =>
      (indentation depth ++ "- " ++ String.ofList (first.toList.drop (2 * depth + 2))) :: rest

/-- The lines of a member of an object. -/
def named (depth : Nat) (name : String) : Placed → List String
  | .inline text => [indentation depth ++ stringText name ++ ": " ++ text]
  | .below lines => (indentation depth ++ stringText name ++ ":") :: lines

open Json

mutual

/-- A document whose members begin `depth` steps in. -/
def placed (depth : Nat) : Json → Placed
  | null => .inline "null"
  | Json.bool true => .inline "true"
  | Json.bool false => .inline "false"
  | integer value => .inline (toString value)
  | real value => .inline (Number.floatText value.toFloat)
  | string text => .inline (stringText text)
  | array [] => .inline "[]"
  | object [] => .inline "\x7b\x7d"
  | array (item :: items) => .below (itemLines depth (item :: items))
  | object (member :: members) => .below (memberLines depth (member :: members))

def itemLines (depth : Nat) : List Json → List String
  | [] => []
  | item :: items => dashed depth (placed (depth + 1) item) ++ itemLines depth items

def memberLines (depth : Nat) : List (String × Json) → List String
  | [] => []
  | (name, value) :: members =>
      let inner := match value with
        | array _ => depth
        | _ => depth + 1
      named depth name (placed inner value) ++ memberLines depth members

end

end ServerOperator.Yaml

namespace ServerOperator.Json

def block (document : Json) : String :=
  match Yaml.placed 0 document with
  | .inline text => text ++ "\n"
  | .below lines => String.join (lines.map (· ++ "\n"))

end ServerOperator.Json
