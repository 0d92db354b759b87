import ServerOperator.Json.Problem

/-!
Reading a document's text byte by byte. A reader takes the text from a cursor on and leaves the
cursor where it stopped; the first problem ends the reading.
-/

namespace ServerOperator.Json

/-- The bytes still to read and how far the reading has come: the line, counted from one, and the
bytes of it already passed. -/
structure Cursor where
  rest : List UInt8
  line : Nat
  column : Nat

namespace Cursor

def start (text : String) : Cursor :=
  ⟨text.toUTF8.toList, 1, 0⟩

def lineFeed : UInt8 := 10

/-- The cursor after one byte, or the same at the end. -/
def advance (cursor : Cursor) : Cursor :=
  match cursor.rest with
  | [] => cursor
  | byte :: rest =>
      if byte = lineFeed then ⟨rest, cursor.line + 1, 0⟩
      else ⟨rest, cursor.line, cursor.column + 1⟩

def advanceBy (cursor : Cursor) : Nat → Cursor
  | 0 => cursor
  | count + 1 => cursor.advance.advanceBy count

def isBlank (byte : UInt8) : Bool :=
  byte = 32 || byte = 9 || byte = 10 || byte = 13

def skipBlanks (cursor : Cursor) : Cursor :=
  cursor.advanceBy (cursor.rest.takeWhile isBlank).length

/-- A problem of what was read so far. -/
def problem (cursor : Cursor) (problem : Problem) : ReadError :=
  ⟨problem, cursor.line, cursor.column⟩

/-- A problem that the next byte shows. -/
def problemAhead (cursor : Cursor) (problem : Problem) : ReadError :=
  cursor.advance.problem problem

end Cursor

abbrev Reader := StateT Cursor (Except ReadError)

namespace Reader

def fail (problem : Problem) : Reader α :=
  fun cursor => .error (cursor.problem problem)

def failAhead (problem : Problem) : Reader α :=
  fun cursor => .error (cursor.problemAhead problem)

def peek : Reader (Option UInt8) :=
  fun cursor => .ok (cursor.rest.head?, cursor)

def skip : Reader Unit :=
  fun cursor => .ok ((), cursor.advance)

def take : Reader (Option UInt8) := do
  let byte ← peek
  skip
  return byte

def skipBlanks : Reader Unit :=
  fun cursor => .ok ((), cursor.skipBlanks)

/-- The next byte that is no blank, which stays. -/
def peekToken : Reader (Option UInt8) := do
  skipBlanks
  peek

/-- An upper bound for the steps of a loop that passes at least one byte each time. -/
def bound : Reader Nat :=
  fun cursor => .ok (cursor.rest.length + 1, cursor)

/-- The rest of a word whose first letter has been passed. -/
def word : List UInt8 → Reader Unit
  | [] => return ()
  | letter :: letters => do
      match ← take with
      | none => fail .endInValue
      | some byte => if byte = letter then word letters else fail .expectedIdent

def letters (text : String) : List UInt8 :=
  text.toUTF8.toList

end Reader

namespace Byte

def quote : UInt8 := 34
def comma : UInt8 := 44
def minus : UInt8 := 45
def point : UInt8 := 46
def colon : UInt8 := 58
def backslash : UInt8 := 92
def openList : UInt8 := 91
def closeList : UInt8 := 93
def openObject : UInt8 := 123
def closeObject : UInt8 := 125

def isDigit (byte : UInt8) : Bool :=
  48 ≤ byte && byte ≤ 57

def isExponentMark (byte : UInt8) : Bool :=
  byte = 69 || byte = 101

def hexDigit? (byte : UInt8) : Option Nat :=
  if 48 ≤ byte ∧ byte ≤ 57 then some (byte.toNat - 48)
  else if 65 ≤ byte ∧ byte ≤ 70 then some (byte.toNat - 55)
  else if 97 ≤ byte ∧ byte ≤ 102 then some (byte.toNat - 87)
  else none

end Byte

end ServerOperator.Json
