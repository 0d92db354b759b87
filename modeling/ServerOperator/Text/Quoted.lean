import ServerOperator.Text.Unprintable

/-!
Quoted text, as error messages show a string: between double quotes, with the usual short escapes
and every unprintable character spelled by its code point.
-/

namespace ServerOperator.Text

/-- One character inside double quotes. A single quote stands as it is. -/
def escaped (character : Char) : List Char :=
  match character with
  | '"' => ['\\', '"']
  | '\\' => ['\\', '\\']
  | '\n' => ['\\', 'n']
  | '\r' => ['\\', 'r']
  | '\t' => ['\\', 't']
  | '\x00' => ['\\', '0']
  | _ =>
      if ' ' ≤ character ∧ character ≤ '~' then [character]
      else if isUnprintable character then
        ['\\', 'u', '\x7b'] ++ Nat.toDigits 16 character.toNat ++ ['\x7d']
      else [character]

def quoted (text : String) : String :=
  String.ofList ('"' :: text.toList.flatMap escaped ++ ['"'])

end ServerOperator.Text
