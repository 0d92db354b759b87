/-!
The shortest decimal that reads back as a given floating-point number, and its written form.

A finite number is `mantissa · 2 ^ scale`. Every real closer to it than to its neighbours reads back
as it; among the decimals of fewest digits in that interval the nearest one is taken.
-/

namespace ServerOperator.Number

def powerOfTwo (exponent : Nat) : Nat :=
  Nat.pow 2 exponent

def powerOfTen (exponent : Nat) : Nat :=
  Nat.pow 10 exponent

/-- A positive floating-point number with the interval of reals that round to it. The bounds are
counted in quarters of the unit in the last place. -/
structure Rounding where
  mantissa : Nat
  scale : Int
  low : Nat
  high : Nat
  inclusive : Bool

def Rounding.ofFloat (value : Float) : Rounding :=
  let bits := value.toBits.toNat
  let fraction := bits % powerOfTwo 52
  let field := bits / powerOfTwo 52 % powerOfTwo 11
  let mantissa := if field = 0 then fraction else powerOfTwo 52 + fraction
  let scale : Int := (if field = 0 then 1 else field : Nat) - 1075
  let low := if fraction = 0 ∧ 1 < field then 4 * mantissa - 1 else 4 * mantissa - 2
  ⟨mantissa, scale, low, 4 * mantissa + 2, mantissa % 2 = 0⟩

/-- Compares `digits · 10 ^ exponent` with a bound in quarters, both made whole. -/
def Rounding.compareWith (rounding : Rounding) (quarters digits : Nat) (exponent : Int) :
    Ordering :=
  let scale := rounding.scale - 2
  compare
    (digits * powerOfTen exponent.toNat * powerOfTwo (-scale).toNat)
    (quarters * powerOfTwo scale.toNat * powerOfTen (-exponent).toNat)

def Rounding.contains (rounding : Rounding) (digits : Nat) (exponent : Int) : Bool :=
  let low := rounding.compareWith rounding.low digits exponent
  let high := rounding.compareWith rounding.high digits exponent
  (low == .gt || (rounding.inclusive && low == .eq)) &&
    (high == .lt || (rounding.inclusive && high == .eq))

/-- The digits of the number on the grid `10 ^ exponent`, rounded down. -/
def Rounding.floorOn (rounding : Rounding) (exponent : Int) : Nat :=
  rounding.mantissa * powerOfTwo rounding.scale.toNat * powerOfTen (-exponent).toNat /
    (powerOfTwo (-rounding.scale).toNat * powerOfTen exponent.toNat)

/-- Of the two grid points around the number, those that read back; the nearer one if both do, the
even one on a tie. -/
def Rounding.onGrid? (rounding : Rounding) (exponent : Int) : Option Nat :=
  let below := rounding.floorOn exponent
  match rounding.contains below exponent, rounding.contains (below + 1) exponent with
  | true, false => some below
  | false, true => some (below + 1)
  | false, false => none
  | true, true =>
      match rounding.compareWith (8 * rounding.mantissa) (2 * below + 1) exponent with
      | .gt => some below
      | .lt => some (below + 1)
      | .eq => some (if below % 2 = 0 then below else below + 1)

def Rounding.leading (rounding : Rounding) : Int :=
  let exponents := (List.range 634).map fun offset : Nat => (309 : Int) - offset
  (exponents.find? fun exponent => rounding.floorOn exponent ≠ 0).getD (-324)

/-- The digits, and the exponent of the last of them. A carry out of the leading digit leaves a
zero, which is dropped. -/
def Rounding.shortest (rounding : Rounding) : Nat × Int :=
  let leading := rounding.leading
  let grids := (List.range 17).map fun further : Nat => leading - further
  let found := grids.findSome? fun exponent =>
    (rounding.onGrid? exponent).map fun digits => (digits, exponent)
  let (digits, exponent) := found.getD (rounding.floorOn (leading - 16), leading - 16)
  if digits % 10 = 0 then (digits / 10, exponent + 1) else (digits, exponent)

/-- Positional notation serves magnitudes from `10 ^ -5` up to `10 ^ 16`; a point always shows.
Beyond, one digit stands before the point and the exponent is written without a plus sign. -/
def written (digits : String) (exponent : Int) : String :=
  let zeros (count : Int) : String := String.ofList (List.replicate count.toNat '0')
  let point : Int := digits.length + exponent
  if 0 ≤ exponent ∧ point ≤ 16 then
    digits ++ zeros exponent ++ ".0"
  else if 0 < point ∧ point ≤ 16 then
    String.ofList (digits.toList.take point.toNat) ++ "." ++
      String.ofList (digits.toList.drop point.toNat)
  else if -5 < point ∧ point ≤ 0 then
    "0." ++ zeros (-point) ++ digits
  else if digits.length = 1 then
    digits ++ "e" ++ toString (point - 1)
  else
    String.ofList (digits.toList.take 1) ++ "." ++ String.ofList (digits.toList.drop 1) ++ "e" ++
      toString (point - 1)

def floatText (value : Float) : String :=
  let sign := if value.toBits.toNat < powerOfTwo 63 then "" else "-"
  if value == 0 then sign ++ "0.0"
  else
    let (digits, exponent) := (Rounding.ofFloat value).shortest
    sign ++ written (toString digits) exponent

end ServerOperator.Number
