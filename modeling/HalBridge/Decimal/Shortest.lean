import HalBridge.Decimal.Basic

/-!
The shortest decimal that reads back as a given binary number, and its written form.
-/

namespace HalBridge

namespace Binary

/-- Whether the positive decimal `digits · 10 ^ exponent` is nearest to `x` among all binary
numbers; the ends of the interval belong to an even mantissa. -/
def reads (x : Binary) (digits : Nat) (exponent : Int) : Bool :=
  let lowerMantissa :=
    if x.mantissa = leastNormal && minExponent < x.exponent then 4 * x.mantissa - 1
    else 4 * x.mantissa - 2
  let upperMantissa := 4 * x.mantissa + 2
  let ten := scale 10 exponent digits 1
  let two := scale 2 (x.exponent - 2) 1 1
  let value := ten.1 * two.2
  let lower := lowerMantissa * two.1 * ten.2
  let upper := upperMantissa * two.1 * ten.2
  if x.mantissa % 2 = 0 then lower ≤ value && value ≤ upper else lower < value && value < upper

/-- The neighbours of `x` on the grid of multiples of `10 ^ exponent` that read back as `x`, of
two the nearer, of two equally near the even. -/
def onGrid? (x : Binary) (exponent : Int) : Option Nat :=
  let two := scale 2 x.exponent x.mantissa 1
  let ten := scale 10 (-exponent) two.1 two.2
  let below := ten.1 / ten.2
  let rest := ten.1 % ten.2
  match x.reads below exponent, x.reads (below + 1) exponent with
  | true, false => some below
  | false, true => some (below + 1)
  | true, true =>
      if 2 * rest < ten.2 || (2 * rest = ten.2 && below % 2 = 0) then some below
      else some (below + 1)
  | false, false => none

/-- The decimal exponent `e` with `10 ^ e ≤ x < 10 ^ (e + 1)`, searched upwards from `e`. -/
def magnitudeFrom (x : Binary) : Nat → Int → Int
  | 0, e => e
  | steps + 1, e =>
      let two := scale 2 x.exponent x.mantissa 1
      let ten := scale 10 (-(e + 1)) two.1 two.2
      if ten.1 < ten.2 then e else magnitudeFrom x steps (e + 1)

/-- The fewest digits that read back as a positive `x`, with their exponent. -/
def shortest (x : Binary) : Nat × Int :=
  let magnitude := x.magnitudeFrom 700 (-330)
  let grids := (List.range 17).map fun (n : Nat) => magnitude - n
  match grids.findSome? fun e => (x.onGrid? e).map fun digits => (digits, e) with
  | some found => found
  | none => (0, 0)

end Binary

/-- Removes the trailing zeros of a numeral, counting them into the exponent. -/
def Decimal.stripZeros : Nat → Nat → Int → Nat × Int
  | 0, digits, exponent => (digits, exponent)
  | bound + 1, digits, exponent =>
      if digits % 10 = 0 && digits ≠ 0 then stripZeros bound (digits / 10) (exponent + 1)
      else (digits, exponent)

/-- How the digits of a number are laid out: positionally with at least one decimal while the
leading digit stands between the fourth decimal and the sixteenth place, else with an exponent of
at least two digits. -/
def Decimal.layout (digits : Nat) (exponent : Int) : String :=
  let cs := Nat.toDigits 10 digits
  let point : Int := exponent + cs.length
  if -4 < point && point ≤ 16 then
    if point ≤ 0 then
      "0." ++ String.ofList (List.replicate (-point).toNat '0' ++ cs)
    else if 0 ≤ exponent then
      String.ofList (cs ++ List.replicate exponent.toNat '0') ++ ".0"
    else
      String.ofList (cs.take point.toNat) ++ "." ++ String.ofList (cs.drop point.toNat)
  else
    let shown := Nat.toDigits 10 (point - 1).natAbs
    let padded := List.replicate (2 - shown.length) '0' ++ shown
    let fraction := cs.drop 1
    String.ofList (cs.take 1)
      ++ (if fraction.isEmpty then "" else "." ++ String.ofList fraction)
      ++ (if point - 1 < 0 then "e-" else "e+") ++ String.ofList padded

/-- The text of the binary number nearest to a decimal literal. -/
def Decimal.toText (x : Decimal) : String :=
  let magnitude :=
    match x.toBinary? with
    | none => "inf"
    | some b =>
        if b.mantissa = 0 then "0.0"
        else
          let found := b.shortest
          let stripped := stripZeros 20 found.1 found.2
          layout stripped.1 stripped.2
  if x.negative then "-" ++ magnitude else magnitude

end HalBridge
