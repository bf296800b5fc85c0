/-!
Decimal literals and the binary numbers of 53 significant bits nearest to them.
-/

namespace HalBridge

/-- The number `± digits · 10 ^ exponent`. -/
structure Decimal where
  negative : Bool
  digits : Nat
  exponent : Int
deriving DecidableEq

/-- The number `mantissa · 2 ^ exponent`. -/
structure Binary where
  mantissa : Nat
  exponent : Int
deriving DecidableEq

namespace Binary

/-- The least exponent of a binary number; numbers this small have fewer significant bits. -/
def minExponent : Int := -1074

/-- The greatest exponent of a binary number; a literal beyond it is infinite. -/
def maxExponent : Int := 971

/-- The nearest integer to `n / d`, of two nearest ones the even. -/
def roundQuotient (n d : Nat) : Nat :=
  let q := n / d
  let r := n % d
  if 2 * r < d || (2 * r = d && q % 2 = 0) then q else q + 1

/-- The least mantissa of 53 bits. -/
def leastNormal : Nat := Nat.pow 2 52

/-- A pair of naturals with the quotient `n · b ^ e / d`. -/
def scale (b : Nat) (e : Int) (n d : Nat) : Nat × Nat :=
  if 0 ≤ e then (n * b.pow e.toNat, d) else (n, d * b.pow (-e).toNat)

/-- The binary number nearest to a positive quotient, or `none` beyond the greatest. -/
def ofQuotient? (n d : Nat) : Option Binary :=
  let estimate : Int := (n.log2 : Int) - (d.log2 : Int) - 52
  let low := scale 2 (-(estimate - 1)) n d
  let tight := if low.1 / low.2 < 2 * leastNormal then estimate - 1 else estimate
  let exponent := max tight minExponent
  let scaled := scale 2 (-exponent) n d
  let mantissa := roundQuotient scaled.1 scaled.2
  let result : Binary :=
    if mantissa = 2 * leastNormal then ⟨leastNormal, exponent + 1⟩ else ⟨mantissa, exponent⟩
  if maxExponent < result.exponent then none else some result

/-- The integer part. -/
def floor (x : Binary) : Nat :=
  let scaled := scale 2 x.exponent x.mantissa 1
  scaled.1 / scaled.2

end Binary

namespace Decimal

/-- The number of decimal digits of a positive number. -/
def digitCount (n : Nat) : Nat :=
  (Nat.toDigits 10 n).length

/-- The binary number nearest to the absolute value; `none` if it is beyond the greatest. The
comparison of magnitudes keeps the powers of ten small. -/
def toBinary? (x : Decimal) : Option Binary :=
  let magnitude : Int := x.exponent + digitCount x.digits
  if x.digits = 0 || magnitude < -400 then some ⟨0, Binary.minExponent⟩
  else if 400 < magnitude then none
  else
    let quotient := Binary.scale 10 x.exponent x.digits 1
    Binary.ofQuotient? quotient.1 quotient.2

/-- The integer between zero and the number that is nearest to it. -/
def truncate? (x : Decimal) : Option Int :=
  x.toBinary?.map fun b => if x.negative then -(b.floor : Int) else b.floor

end Decimal

end HalBridge
