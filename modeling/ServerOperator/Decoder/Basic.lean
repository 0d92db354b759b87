import ServerOperator.Json.Document

/-!
Decoders: how a value of a type is read from a document. Each decoder reads in two ways that accept
the same documents: from a tree, and straight from a text, where the first problem in the order of
the text is reported with its place.
-/

namespace ServerOperator

structure Decoder (α : Type) where
  tree : Json → Except Fault α
  text : Json.Reader α

namespace Decoder

open Json

def parse (decoder : Decoder α) (text : String) : Except ReadError α :=
  decoder.text.all text

def map (change : α → β) (decoder : Decoder α) : Decoder β where
  tree document := (decoder.tree document).map change
  text := return change (← decoder.text)

def mismatch (document : Json) (expected : String) : Except Fault α :=
  .error (.invalidType document.found expected)

/-- Decides on a scalar that has just been read from a text. -/
def settle (decision : Except Fault α) : Reader α :=
  match decision with
  | .ok value => return value
  | .error fault => Reader.fail (.content fault)

/-- A type whose values are written as scalars; brackets are refused before they are passed. -/
def scalar (expected : String) (decide : Json → Except Fault α) : Decoder α where
  tree := decide
  text := do
    match ← Reader.scalarOrBracket with
    | .inl document => settle (decide document)
    | .inr found => Reader.fail (.content (.invalidType found expected))

/-- A string, described as `expected` where something else stands. -/
def stringCalled (expected : String) : Decoder String :=
  scalar expected fun
    | .string value => .ok value
    | document => mismatch document expected

def string : Decoder String :=
  stringCalled "a string"

def bool : Decoder Bool :=
  scalar "a boolean" fun
    | .bool value => .ok value
    | document => mismatch document "a boolean"

def integer (expected : String) (low high : Int) (convert : Int → α) : Decoder α :=
  scalar expected fun
    | .integer value =>
        if low ≤ value ∧ value ≤ high then .ok (convert value)
        else .error (.invalidValue (.integer value) expected)
    | document => mismatch document expected

def int32 : Decoder Int32 :=
  integer "i32" (-2147483648) 2147483647 Int32.ofInt

def int64 : Decoder Int64 :=
  integer "i64" (-9223372036854775808) 9223372036854775807 Int64.ofInt

def uint16 : Decoder UInt16 :=
  integer "u16" 0 65535 fun value => UInt16.ofNat value.toNat

/-- `null` stands for no value. -/
def nullable (decoder : Decoder α) : Decoder (Option α) where
  tree
    | .null => .ok none
    | document => (decoder.tree document).map some
  text := do
    if (← Reader.peekToken) = some 110 then
      Reader.skip
      Reader.word (Reader.letters "ull")
      return none
    else return some (← decoder.text)

def items (decoder : Decoder α) (first : Bool) : Nat → Reader (List α)
  | 0 => return []
  | fuel + 1 => do
      if ← Reader.hasItem first then
        let item ← decoder.text
        return item :: (← decoder.items false fuel)
      else return []

def list (decoder : Decoder α) : Decoder (List α) where
  tree
    | .array documents => documents.mapM decoder.tree
    | document => mismatch document "a sequence"
  text := do
    match ← Reader.scalarOrBracket with
    | .inr .sequence =>
        Reader.skip
        let values ← decoder.items true (← Reader.bound)
        Reader.closeList
        return values
    | .inr found => Reader.fail (.content (.invalidType found "a sequence"))
    | .inl document => settle (mismatch document "a sequence")

def entries (decoder : Decoder α) (first : Bool) (held : List (String × α)) :
    Nat → Reader (List (String × α))
  | 0 => return held
  | fuel + 1 => do
      match ← Reader.memberName? first with
      | none => return held
      | some name =>
          Reader.colon
          let value ← decoder.text
          decoder.entries false (Json.insertSorted name value held) fuel

/-- Values by name, in ascending order of the names; of equal names the last one counts. -/
def dictionary (decoder : Decoder α) : Decoder (List (String × α)) where
  tree
    | .object members =>
        members.foldlM (fun held member => do
          let value ← decoder.tree member.2
          return Json.insertSorted member.1 value held) []
    | document => mismatch document "a map"
  text := do
    match ← Reader.scalarOrBracket with
    | .inr .map =>
        Reader.skip
        let held ← decoder.entries true [] (← Reader.bound)
        Reader.closeObject
        return held
    | .inr found => Reader.fail (.content (.invalidType found "a map"))
    | .inl document => settle (mismatch document "a map")

def null : Decoder Unit :=
  scalar "unit" fun
    | .null => .ok ()
    | document => mismatch document "unit"

/-- One of a fixed list of names: written as a string, or as an object whose only member has the
name and the value `null`. -/
def choice (options : List (String × α)) : Decoder α where
  tree
    | .string name => named name
    | .object [(name, value)] => do
        let chosen ← named name
        null.tree value
        return chosen
    | .object _ => .error (.invalidValue .map "map with a single key")
    | document => mismatch document "string or map"
  text := do
    match ← Reader.peekToken with
    | none => Reader.failAhead .endInValue
    | some byte =>
        if byte = Byte.quote then
          Reader.skip
          settle (named (← Reader.stringBody))
        else if byte = Byte.openObject then
          Reader.skip
          let name ← (stringCalled "variant identifier").text
          let chosen ← settle (named name)
          Reader.colon
          null.text
          match ← Reader.peekToken with
          | none => Reader.fail .endInObject
          | some next =>
              if next = Byte.closeObject then Reader.skip else Reader.fail .expectedValue
          return chosen
        else Reader.failAhead .expectedValue
where
  named (name : String) : Except Fault α :=
    match options.lookup name with
    | some value => .ok value
    | none => .error (.unknownVariant name (options.map Prod.fst))

def any : Decoder Json where
  tree := .ok
  text := Reader.document

end Decoder

end ServerOperator
