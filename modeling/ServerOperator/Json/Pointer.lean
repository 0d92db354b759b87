import ServerOperator.Json.Basic

/-!
Pointers into a document: a path of member names and item positions, each after a slash.
-/

namespace ServerOperator.Json

/-- A step of a pointer: `~1` stands for a slash and `~0` for a tilde. -/
def unescapedStep (step : String) : String :=
  String.ofList (go step.toList)
where
  go : List Char → List Char
    | '~' :: '1' :: rest => '/' :: go rest
    | '~' :: '0' :: rest => '~' :: go rest
    | character :: rest => character :: go rest
    | [] => []

/-- A position in a list: digits without a leading zero. -/
def position? (step : String) : Option Nat :=
  match step.toList with
  | [] => none
  | ['0'] => some 0
  | '0' :: _ => none
  | digits => if digits.all Char.isDigit then step.toNat? else none

def step? (document : Json) (step : String) : Option Json :=
  match document with
  | object _ => document.member? step
  | array items => (position? step).bind fun position => items[position]?
  | _ => none

/-- The part of the document that the pointer leads to. The empty pointer leads to the whole. -/
def pointer? (document : Json) (pointer : String) : Option Json :=
  if pointer = "" then some document
  else
    match pointer.splitOn "/" with
    | "" :: steps => steps.foldlM (fun held step => held.step? (unescapedStep step)) document
    | _ => none

end ServerOperator.Json
