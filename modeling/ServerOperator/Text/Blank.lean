/-!
Blank text: text made of white space alone, in the sense of the Unicode property `White_Space`.
-/

namespace ServerOperator.Text

def isWhiteSpace (character : Char) : Bool :=
  let code := character.toNat
  (0x9 ≤ code && code ≤ 0xd) || code == 0x20 || code == 0x85 || code == 0xa0 || code == 0x1680 ||
    (0x2000 ≤ code && code ≤ 0x200a) || code == 0x2028 || code == 0x2029 || code == 0x202f ||
    code == 0x205f || code == 0x3000

/-- Empty text is blank. -/
def isBlank (text : String) : Bool :=
  text.toList.all isWhiteSpace

end ServerOperator.Text
