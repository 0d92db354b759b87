import ServerOperator.Json.Lexeme

/-!
Lists, objects and whole documents in a text. The steps from item to item and from member to member
are shared by everything that reads them; `document` reads any document, `skipValue` passes over
one without its value.
-/

namespace ServerOperator.Json.Reader

/-- Whether an item follows, which is then next; a list's closing bracket stays. -/
def hasItem (first : Bool) : Reader Bool := do
  match ← peekToken with
  | none => failAhead .endInList
  | some byte =>
      if byte = Byte.closeList then return false
      else if first then return true
      else if byte = Byte.comma then
        skip
        match ← peekToken with
        | none => failAhead .endInValue
        | some next => if next = Byte.closeList then failAhead .trailingComma else return true
      else failAhead .expectedListEnd

/-- The name of the next member, if one follows; an object's closing bracket stays. -/
def memberName? (first : Bool) : Reader (Option String) := do
  match ← peekToken with
  | none => failAhead .endInObject
  | some byte =>
      if byte = Byte.closeObject then return none
      else if first then
        if byte = Byte.quote then name else failAhead .keyNotString
      else if byte = Byte.comma then
        skip
        match ← peekToken with
        | none => failAhead .endInValue
        | some next =>
            if next = Byte.quote then name
            else if next = Byte.closeObject then failAhead .trailingComma
            else failAhead .keyNotString
      else failAhead .expectedObjectEnd
where
  name : Reader (Option String) := do
    skip
    return some (← stringBody)

def colon : Reader Unit := do
  match ← peekToken with
  | none => failAhead .endInObject
  | some byte => if byte = Byte.colon then skip else failAhead .expectedColon

def closeList : Reader Unit := do
  match ← peekToken with
  | none => failAhead .endInList
  | some byte =>
      if byte = Byte.closeList then skip
      else if byte = Byte.comma then
        skip
        match ← peekToken with
        | some next =>
            if next = Byte.closeList then failAhead .trailingComma
            else failAhead .trailingCharacters
        | none => failAhead .trailingCharacters
      else failAhead .trailingCharacters

def closeObject : Reader Unit := do
  match ← peekToken with
  | none => failAhead .endInObject
  | some byte =>
      if byte = Byte.closeObject then skip
      else if byte = Byte.comma then failAhead .trailingComma
      else failAhead .trailingCharacters

/-- Where the cursor stands after an attempt to close a list, whatever comes of it. -/
def afterList (cursor : Cursor) : Cursor :=
  let cursor := cursor.skipBlanks
  match cursor.rest with
  | byte :: _ =>
      if byte = Byte.closeList then cursor.advance
      else if byte = Byte.comma then cursor.advance.skipBlanks
      else cursor
  | [] => cursor

/-- Where the cursor stands after an attempt to close an object, whatever comes of it. -/
def afterObject (cursor : Cursor) : Cursor :=
  let cursor := cursor.skipBlanks
  if cursor.rest.head? = some Byte.closeObject then cursor.advance else cursor

/-- A document that is neither a list nor an object, if one is next: it is read whole. A bracket
stays, and its kind is told. -/
def scalarOrBracket : Reader (Json ⊕ Found) := do
  match ← peekToken with
  | none => failAhead .endInValue
  | some byte =>
      if byte = 110 then
        skip
        word (letters "ull")
        return .inl null
      else if byte = 116 then
        skip
        word (letters "rue")
        return .inl (bool true)
      else if byte = 102 then
        skip
        word (letters "alse")
        return .inl (bool false)
      else if byte = Byte.minus then
        skip
        return .inl (← number true)
      else if Byte.isDigit byte then return .inl (← number false)
      else if byte = Byte.quote then
        skip
        return .inl (string (← stringBody))
      else if byte = Byte.openList then return .inr .sequence
      else if byte = Byte.openObject then return .inr .map
      else failAhead .expectedValue

mutual

/-- Any document. Of members with the same name the last one counts. -/
def value : Nat → Reader Json
  | 0 => failAhead .endInValue
  | fuel + 1 => do
      match ← scalarOrBracket with
      | .inl scalar => return scalar
      | .inr .sequence =>
          skip
          let items ← values true fuel
          closeList
          return array items
      | .inr _ =>
          skip
          let entries ← namedValues true [] fuel
          closeObject
          return object entries

def values (first : Bool) : Nat → Reader (List Json)
  | 0 => return []
  | fuel + 1 => do
      if ← hasItem first then
        let item ← value fuel
        return item :: (← values false fuel)
      else return []

def namedValues (first : Bool) (held : List (String × Json)) : Nat → Reader (List (String × Json))
  | 0 => return held
  | fuel + 1 => do
      match ← memberName? first with
      | none => return held
      | some name =>
          colon
          let item ← value fuel
          namedValues false (insertSorted name item held) fuel

end

/-- The kind of bracket that encloses what is passed over. -/
inductive Bracket where
  | list
  | object
deriving DecidableEq

/-- After a value inside `open` brackets, or after an opening bracket if `fresh`: passes closing
brackets and one comma. What is left is the brackets around the next value. -/
def skipClosings (fresh : Bool) (opened : List Bracket) : Nat → Reader (List Bracket)
  | 0 => return []
  | fuel + 1 => do
      match opened with
      | [] => return []
      | bracket :: outer =>
          match ← peekToken with
          | none => failAhead (if bracket = .list then .endInList else .endInObject)
          | some byte =>
              if byte = Byte.comma ∧ fresh = false then
                skip
                return opened
              else if byte = (if bracket = .list then Byte.closeList else Byte.closeObject) then
                skip
                skipClosings false outer fuel
              else if fresh then return opened
              else failAhead (if bracket = .list then .expectedListEnd else .expectedObjectEnd)

/-- Passes a member's name and colon. -/
def skipName : Reader Unit := do
  match ← peekToken with
  | none => failAhead .endInObject
  | some byte =>
      if byte ≠ Byte.quote then failAhead .keyNotString
      skip
      skipString
      colon

/-- Passes a value inside `opened` brackets, and everything up to the end of the outermost. -/
def skipNested (opened : List Bracket) : Nat → Reader Unit
  | 0 => return ()
  | fuel + 1 => do
      let entered ← enter
      let left ← skipClosings entered.isSome (entered.toList ++ opened) (← bound)
      match left with
      | [] => return ()
      | bracket :: _ =>
          if bracket = .object then skipName
          skipNested left fuel
where
  enter : Reader (Option Bracket) := do
    match ← peekToken with
    | none => failAhead .endInValue
    | some byte =>
        if byte = Byte.openList then
          skip
          return some .list
        else if byte = Byte.openObject then
          skip
          return some .object
        else
          if byte = Byte.quote then
            skip
            skipString
          else if byte = Byte.minus then
            skip
            skipNumber
          else if Byte.isDigit byte then skipNumber
          else
            let _ ← scalarOrBracket
          return none

/-- Passes any document without its value: numbers may be out of range, and strings may hold
escapes that form no character. -/
def skipValue : Reader Unit := do
  skipNested [] (← bound)

def document : Reader Json := do
  value (2 * (← bound))

/-- Nothing but blanks may follow. -/
def finished : Reader Unit := do
  match ← peekToken with
  | none => return ()
  | some _ => failAhead .trailingCharacters

/-- Reads a text that holds one thing. -/
def all (reader : Reader α) (text : String) : Except ReadError α :=
  (do
    let held ← reader
    finished
    return held : Reader α).run' (Cursor.start text)

end ServerOperator.Json.Reader

namespace ServerOperator.Json

def parse (text : String) : Except ReadError Json :=
  Reader.document.all text

end ServerOperator.Json
