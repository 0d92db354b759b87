import ServerOperator.Json.Cursor

/-!
The strings and numbers of a document's text. Each is read in one of two ways: for its value, or
only to pass over it, which asks for less.
-/

namespace ServerOperator.Json.Reader

def hexQuad? : List UInt8 → Option Nat
  | [a, b, c, d] => do
      let a ← Byte.hexDigit? a
      let b ← Byte.hexDigit? b
      let c ← Byte.hexDigit? c
      let d ← Byte.hexDigit? d
      return ((a * 16 + b) * 16 + c) * 16 + d
  | _ => none

/-- Four hexadecimal digits. A text that ends before them is read to its end. -/
def hexEscape : Reader Nat := fun cursor =>
  let digits := cursor.rest.take 4
  let after := cursor.advanceBy digits.length
  if digits.length < 4 then .error (after.problem .endInString)
  else
    match hexQuad? digits with
    | some code => .ok (code, after)
    | none => .error (after.problem .invalidEscape)

/-- The next byte of a string's escape, if it is the one expected. -/
def expectInPair (expected : UInt8) : Reader Unit := do
  match ← peek with
  | none => fail .endInString
  | some byte =>
      skip
      if byte ≠ expected then fail .unpairedSurrogate

/-- The character of an escape `\u`. A code point beyond the first plane is a pair of escapes. -/
def unicodeEscape : Reader Char := do
  let lead ← hexEscape
  if 0xdc00 ≤ lead ∧ lead ≤ 0xdfff then fail .loneSurrogate
  if lead < 0xd800 ∨ 0xdbff < lead then return Char.ofNat lead
  expectInPair Byte.backslash
  expectInPair 117
  let trail ← hexEscape
  if trail < 0xdc00 ∨ 0xdfff < trail then fail .loneSurrogate
  return Char.ofNat ((lead - 0xd800) * 0x400 + (trail - 0xdc00) + 0x10000)

/-- The byte that a one-letter escape stands for. -/
def shortEscape? (letter : UInt8) : Option UInt8 :=
  match letter.toNat with
  | 34 => some 34
  | 92 => some 92
  | 47 => some 47
  | 98 => some 8
  | 102 => some 12
  | 110 => some 10
  | 114 => some 13
  | 116 => some 9
  | _ => none

def bytesOf (character : Char) : List UInt8 :=
  (String.singleton character).toUTF8.toList

def textOf (bytes : List UInt8) : String :=
  (String.fromUTF8? (ByteArray.mk bytes.toArray)).getD ""

/-- A string's text up to the closing quote, after what was `read` of it in reverse. -/
def stringRest (read : List UInt8) : Nat → Reader String
  | 0 => fail .endInString
  | fuel + 1 => do
      match ← take with
      | none => fail .endInString
      | some byte =>
          if byte = Byte.quote then return textOf read.reverse
          else if byte = Byte.backslash then
            match ← take with
            | none => fail .endInString
            | some letter =>
                if letter = 117 then
                  let character ← unicodeEscape
                  stringRest ((bytesOf character).reverse ++ read) fuel
                else
                  match shortEscape? letter with
                  | some meant => stringRest (meant :: read) fuel
                  | none => fail .invalidEscape
          else if byte < 32 then fail .controlCharacter
          else stringRest (byte :: read) fuel

/-- A string whose opening quote has been passed. -/
def stringBody : Reader String := do
  stringRest [] (← bound)

/-- Passes a string without its value: escapes need not form characters, and a control character
stays unread. -/
def skipStringRest : Nat → Reader Unit
  | 0 => fail .endInString
  | fuel + 1 => do
      match ← peek with
      | none => fail .endInString
      | some byte =>
          if byte = Byte.quote then skip
          else if byte = Byte.backslash then
            skip
            match ← take with
            | none => fail .endInString
            | some letter =>
                if letter = 117 then
                  let _ ← hexEscape
                  skipStringRest fuel
                else if (shortEscape? letter).isSome then skipStringRest fuel
                else fail .invalidEscape
          else if byte < 32 then fail .controlCharacter
          else
            skip
            skipStringRest fuel

def skipString : Reader Unit := do
  skipStringRest (← bound)

/-- The digits at the cursor, which are passed. -/
def digits : Reader (List Nat) := fun cursor =>
  let found := cursor.rest.takeWhile Byte.isDigit
  .ok (found.map (fun byte => byte.toNat - 48), cursor.advanceBy found.length)

/-- The largest significand that is kept whole. -/
def greatestSignificand : Nat := 18446744073709551615

/-- Appends digits as long as the significand stays whole; the count of those left over follows. -/
def appendDigits (significand : Nat) : List Nat → Nat × Nat
  | [] => (significand, 0)
  | digit :: rest =>
      if greatestSignificand < significand * 10 + digit then (significand, rest.length + 1)
      else appendDigits (significand * 10 + digit) rest

/-- The greatest exponent that is told apart from larger ones. -/
def greatestExponent : Nat := 2147483647

def finish (number : Decimal) : Reader Json :=
  if number.magnitude?.isSome then return real number else fail .numberOutOfRange

def isDigitNext : Reader Bool := do
  return (← peek).any Byte.isDigit

/-- Digits of an exponent until it grows too large to be told apart; `none` if it does, with the
digit that made it so passed and the later ones not. -/
def exponentDigits (exponent : Nat) : Nat → Reader (Option Nat)
  | 0 => return some exponent
  | fuel + 1 => do
      match ← peek with
      | none => return some exponent
      | some byte =>
          if Byte.isDigit byte then
            skip
            let next := exponent * 10 + (byte.toNat - 48)
            if greatestExponent < next then return none else exponentDigits next fuel
          else return some exponent

/-- The rest of a number after its exponent mark. -/
def exponentPart (negative : Bool) (significand : Nat) (exponent : Int) : Reader Json := do
  skip
  let sign ← peek
  if sign = some 43 ∨ sign = some Byte.minus then skip
  match ← take with
  | none => fail .endInValue
  | some byte =>
      if Byte.isDigit byte then
        match ← exponentDigits (byte.toNat - 48) (← bound) with
        | some written =>
            let change : Int := if sign = some Byte.minus then -written else written
            finish ⟨negative, significand, exponent + change⟩
        | none =>
            if significand ≠ 0 ∧ sign ≠ some Byte.minus then fail .numberOutOfRange
            let _ ← digits
            return real ⟨negative, 0, 0⟩
      else fail .invalidNumber

/-- The rest of a number after its point. Digits beyond a whole significand count for nothing. -/
def fractionPart (negative : Bool) (significand : Nat) (exponent : Int) : Reader Json := do
  skip
  let found ← digits
  if found.isEmpty then
    match ← peek with
    | some _ => failAhead .invalidNumber
    | none => failAhead .endInValue
  let (significand, dropped) := appendDigits significand found
  let exponent := exponent - (found.length - dropped : Nat)
  if (← peek).any Byte.isExponentMark then exponentPart negative significand exponent
  else finish ⟨negative, significand, exponent⟩

/-- The magnitude of the least integer. -/
def leastMagnitude : Nat := 9223372036854775808

/-- A number whose sign has been passed. A whole number is an integer if it fits 64 bits; otherwise,
and for minus zero, it is a real one. -/
def number (negative : Bool) : Reader Json := do
  match ← take with
  | none => fail .endInValue
  | some first =>
      if Byte.isDigit first = false then fail .invalidNumber
      if first = 48 ∧ (← isDigitNext) then failAhead .invalidNumber
      let found ← digits
      let (significand, dropped) := appendDigits (first.toNat - 48) found
      match ← peek with
      | some byte =>
          if byte = Byte.point then return ← fractionPart negative significand dropped
          if Byte.isExponentMark byte then return ← exponentPart negative significand dropped
      | none => pure ()
      if dropped ≠ 0 then finish ⟨negative, significand, dropped⟩
      else if negative = false then return integer significand
      else if significand = 0 ∨ leastMagnitude < significand then return real ⟨true, significand, 0⟩
      else return integer (-significand)

/-- Passes the exponent of a number without its value. -/
def skipExponent : Reader Unit := do
  skip
  let sign ← peek
  if sign = some 43 ∨ sign = some Byte.minus then skip
  match ← take with
  | none => fail .invalidNumber
  | some byte => if Byte.isDigit byte = false then fail .invalidNumber
  let _ ← digits

/-- Passes a number whose sign has been passed. -/
def skipNumber : Reader Unit := do
  match ← take with
  | none => fail .invalidNumber
  | some first =>
      if Byte.isDigit first = false then fail .invalidNumber
      if first = 48 then
        if ← isDigitNext then failAhead .invalidNumber
      else
        let _ ← digits
      if (← peek) = some Byte.point then
        skip
        if (← digits).isEmpty then failAhead .invalidNumber
      if (← peek).any Byte.isExponentMark then skipExponent

end ServerOperator.Json.Reader
