import ServerOperator.Json.Basic
import ServerOperator.Number.Shortest
import ServerOperator.Text.Quoted

/-!
What can be wrong with a document: with its content, for a type that is read from it, or with its
text. Errors of content have no place when the document is already a tree; every error found in a
text has one.
-/

namespace ServerOperator

/-- What stands where something else was expected. -/
inductive Found where
  | null
  | boolean (value : Bool)
  | integer (value : Int)
  | real (value : Decimal)
  | string (value : String)
  | sequence
  | map
deriving DecidableEq, Repr

def Found.text : Found → String
  | null => "null"
  | boolean value => "boolean `" ++ toString value ++ "`"
  | integer value => "integer `" ++ toString value ++ "`"
  | real value => "floating point `" ++ Number.floatText value.toFloat ++ "`"
  | string value => "string " ++ Text.quoted value
  | sequence => "sequence"
  | map => "map"

def Json.found : Json → Found
  | null => .null
  | bool value => .boolean value
  | integer value => .integer value
  | real value => .real value
  | string value => .string value
  | array _ => .sequence
  | object _ => .map

/-- Content that does not fit the type that is read. -/
inductive Fault where
  | missingField (name : String)
  | duplicateField (name : String)
  | invalidType (found : Found) (expected : String)
  | invalidValue (found : Found) (expected : String)
  | invalidLength (length : Nat) (expected : String)
  | unknownVariant (name : String) (variants : List String)
deriving DecidableEq, Repr

def ticked (name : String) : String :=
  "`" ++ name ++ "`"

def Fault.message : Fault → String
  | missingField name => "missing field " ++ ticked name
  | duplicateField name => "duplicate field " ++ ticked name
  | invalidType found expected => "invalid type: " ++ found.text ++ ", expected " ++ expected
  | invalidValue found expected => "invalid value: " ++ found.text ++ ", expected " ++ expected
  | invalidLength length expected =>
      "invalid length " ++ toString length ++ ", expected " ++ expected
  | unknownVariant name variants =>
      "unknown variant " ++ ticked name ++ ", expected one of " ++
        ", ".intercalate (variants.map ticked)

/-- A text that is no document, or a document with a fault. -/
inductive Problem where
  | content (fault : Fault)
  | endInValue
  | endInList
  | endInObject
  | endInString
  | expectedColon
  | expectedListEnd
  | expectedObjectEnd
  | expectedIdent
  | expectedValue
  | invalidEscape
  | invalidNumber
  | numberOutOfRange
  | controlCharacter
  | keyNotString
  | loneSurrogate
  | unpairedSurrogate
  | trailingComma
  | trailingCharacters
deriving DecidableEq, Repr

def Problem.message : Problem → String
  | content fault => fault.message
  | endInValue => "EOF while parsing a value"
  | endInList => "EOF while parsing a list"
  | endInObject => "EOF while parsing an object"
  | endInString => "EOF while parsing a string"
  | expectedColon => "expected `:`"
  | expectedListEnd => "expected `,` or `]`"
  | expectedObjectEnd => "expected `,` or `\x7d`"
  | expectedIdent => "expected ident"
  | expectedValue => "expected value"
  | invalidEscape => "invalid escape"
  | invalidNumber => "invalid number"
  | numberOutOfRange => "number out of range"
  | controlCharacter => "control character (\\u0000-\\u001F) found while parsing a string"
  | keyNotString => "key must be a string"
  | loneSurrogate => "lone leading surrogate in hex escape"
  | unpairedSurrogate => "unexpected end of hex escape"
  | trailingComma => "trailing comma"
  | trailingCharacters => "trailing characters"

/-- A problem of a text, with the line, counted from one, and the number of bytes of that line up
to the byte that showed it. -/
structure ReadError where
  problem : Problem
  line : Nat
  column : Nat
deriving DecidableEq, Repr

def ReadError.message (error : ReadError) : String :=
  error.problem.message ++ " at line " ++ toString error.line ++ " column " ++ toString error.column

end ServerOperator
