/-!
Reading bytes as UTF-8. `decodeUtf8` gives the text or the first place where the bytes stop being
the start of a well-formed text, and how many bytes at that place are wrong.
-/

namespace ServerOperator.Text

/-- Bytes from `index` on are no UTF-8. `length` counts the bytes of the ill-formed sequence; it is
absent when the bytes end inside a sequence that more bytes could have completed. -/
structure Utf8Fault where
  index : Nat
  length : Option Nat
deriving DecidableEq, Repr

def Utf8Fault.message (fault : Utf8Fault) : String :=
  match fault.length with
  | some length =>
      "invalid utf-8 sequence of " ++ toString length ++ " bytes from index " ++
        toString fault.index
  | none => "incomplete utf-8 byte sequence from index " ++ toString fault.index

/-- The bytes that may follow a leading byte, as one range per continuation; `none` for a byte that
leads no sequence. -/
def continuations (lead : UInt8) : Option (List (UInt8 × UInt8)) :=
  let tail : UInt8 × UInt8 := (0x80, 0xbf)
  if lead < 0x80 then some []
  else if 0xc2 ≤ lead ∧ lead ≤ 0xdf then some [tail]
  else if lead = 0xe0 then some [(0xa0, 0xbf), tail]
  else if lead = 0xed then some [(0x80, 0x9f), tail]
  else if 0xe1 ≤ lead ∧ lead ≤ 0xef then some [tail, tail]
  else if lead = 0xf0 then some [(0x90, 0xbf), tail, tail]
  else if 0xf1 ≤ lead ∧ lead ≤ 0xf3 then some [tail, tail, tail]
  else if lead = 0xf4 then some [(0x80, 0x8f), tail, tail]
  else none

/-- Scans the continuations that are still `owed` of a sequence that began at `start`. -/
def findUtf8Fault (index start : Nat) (owed : List (UInt8 × UInt8)) :
    List UInt8 → Option Utf8Fault
  | [] => if owed.isEmpty then none else some ⟨start, none⟩
  | byte :: rest =>
      match owed with
      | (low, high) :: later =>
          if low ≤ byte ∧ byte ≤ high then findUtf8Fault (index + 1) start later rest
          else some ⟨start, some (index - start)⟩
      | [] =>
          match continuations byte with
          | some expected => findUtf8Fault (index + 1) index expected rest
          | none => some ⟨index, some 1⟩

def decodeUtf8 (bytes : List UInt8) : Except Utf8Fault String :=
  match findUtf8Fault 0 0 [] bytes with
  | some fault => .error fault
  | none => .ok ((String.fromUTF8? (ByteArray.mk bytes.toArray)).getD "")

end ServerOperator.Text
