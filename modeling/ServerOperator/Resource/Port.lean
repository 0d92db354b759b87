import ServerOperator.Decoder.Record

/-!
Port targets: a port by its number or by its name.
-/

namespace ServerOperator

open Json

inductive PortTarget where
  | number (value : Int32)
  | name (value : String)
deriving DecidableEq, Inhabited

namespace PortTarget

/-- Here brackets are entered before they are refused. -/
def decoder : Decoder PortTarget where
  tree := decide
  text := do
    match ← Reader.scalarOrBracket with
    | .inl document => Decoder.settle (decide document)
    | .inr found =>
        Reader.skip
        let after := if found = .map then Reader.afterObject else Reader.afterList
        fun cursor =>
          .error ((after cursor).problem (.content (.invalidType found "IntOrString")))
where
  decide : Json → Except Fault PortTarget
    | .integer value =>
        if -2147483648 ≤ value ∧ value ≤ 2147483647 then .ok (number (Int32.ofInt value))
        else .error (.invalidValue (.integer value) "a 32-bit integer")
    | .string value => .ok (name value)
    | document => Decoder.mismatch document "IntOrString"

def toJson : PortTarget → Json
  | number value => integer value.toInt
  | name value => string value

end PortTarget

end ServerOperator
