/-!
Decimal numbers as they are written, and the binary floating-point number that a written one
stands for.
-/

namespace ServerOperator

/-- The number `± significand · 10 ^ exponent`. -/
structure Decimal where
  negative : Bool
  significand : Nat
  exponent : Int
deriving DecidableEq, Repr, Inhabited

namespace Decimal

/-- The largest power of ten that one step of scaling uses. -/
def greatestPower : Nat := 308

def powerOfTen (exponent : Nat) : Float :=
  Float.ofScientific 1 false exponent

/-- Divides by `10 ^ places`, in steps that each stay within the range of powers. -/
def scaleDown (value : Float) (places : Nat) : Float :=
  if places ≤ greatestPower then value / powerOfTen places
  else if value == 0 then value
  else scaleDown (value / powerOfTen greatestPower) (places - greatestPower)
termination_by places
decreasing_by simp only [greatestPower] at *; omega

/-- The magnitude as a floating-point number: the significand is rounded first, then the product
or quotient. `none` when it exceeds every finite number. -/
def magnitude? (decimal : Decimal) : Option Float :=
  let significand := decimal.significand.toUInt64.toFloat
  match decimal.exponent with
  | .ofNat places =>
      if places ≤ greatestPower then
        let value := significand * powerOfTen places
        if value.isInf then none else some value
      else if significand == 0 then some significand
      else none
  | .negSucc places => some (scaleDown significand (places + 1))

def toFloat (decimal : Decimal) : Float :=
  let magnitude := decimal.magnitude?.getD 0
  if decimal.negative then -magnitude else magnitude

end Decimal

end ServerOperator
