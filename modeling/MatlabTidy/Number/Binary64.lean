/-!
# Binary floating point

Numbers with 53 binary digits of precision, as a sign, a mantissa and a power of two.
`Binary64.ofRatio` rounds a quotient to the nearest such number, a half to the even mantissa; a
quotient beyond the greatest number becomes infinite.
-/

namespace MatlabTidy

/-- The nearest natural number to `num / den`, a half to the even neighbour. -/
def roundDiv (num den : Nat) : Nat :=
  let quotient := num / den
  let rest := num % den
  if den < 2 * rest || (2 * rest == den && quotient % 2 == 1) then quotient + 1 else quotient

/-- A floating point number: `mantissa * 2 ^ exponent` when it is finite. -/
inductive Binary64 where
  | finite (negative : Bool) (mantissa : Nat) (exponent : Int)
  | infinite (negative : Bool)
  | nan (negative : Bool)
  deriving DecidableEq, Repr

namespace Binary64

/-- The least power of two of a mantissa. -/
def leastExponent : Int := -1074

/-- The greatest power of two of a mantissa. -/
def greatestExponent : Int := 971

/-- Zero, with its sign. -/
def zero (negative : Bool) : Binary64 := .finite negative 0 leastExponent

/-- The numerator and the denominator of `num / (den * 2 ^ exponent)`. -/
def scale (num den : Nat) (exponent : Int) : Nat × Nat :=
  if exponent < 0 then (num * Nat.pow 2 exponent.natAbs, den) else (num, den * Nat.pow 2 exponent.natAbs)

/-- The power of two at which `num / den` has 53 binary digits before the point, or the least. -/
def exponentFor (num den : Nat) : Int :=
  let guess := max ((num.log2 : Int) - den.log2 - 53) leastExponent
  let scaled := scale num den guess
  if scaled.1 / scaled.2 < Nat.pow 2 53 then guess else guess + 1

/-- The number nearest to `num / den`, for a positive denominator. -/
def ofRatio (negative : Bool) (num den : Nat) : Binary64 :=
  if num = 0 then
    zero negative
  else
    let exponent := exponentFor num den
    let scaled := scale num den exponent
    let mantissa := roundDiv scaled.1 scaled.2
    let (mantissa, exponent) :=
      if mantissa < Nat.pow 2 53 then (mantissa, exponent) else (mantissa / 2, exponent + 1)
    if greatestExponent < exponent then .infinite negative else .finite negative mantissa exponent

/-- The number nearest to `num / den`, for a positive denominator. -/
def ofQuotient (num : Int) (den : Nat) : Binary64 := ofRatio (num < 0) num.natAbs den

/-- The number nearest to `digits * 10 ^ power`. -/
def ofDecimal (negative : Bool) (digits : Nat) (power : Int) : Binary64 :=
  let size := (Nat.toDigits 10 digits).length
  if digits = 0 then zero negative
  else if 400 < power + size then .infinite negative
  else if power + size < -400 then zero negative
  else if power < 0 then ofRatio negative digits (Nat.pow 10 power.natAbs)
  else ofRatio negative (digits * Nat.pow 10 power.natAbs) 1

/-- Whether the number is a zero of either sign. -/
def isZero : Binary64 → Bool
  | .finite _ mantissa _ => mantissa = 0
  | _ => false

/-- The 64 bits of the number: the sign, eleven bits of exponent and 52 of mantissa. -/
def bits (x : Binary64) : Nat :=
  let sign (negative : Bool) : Nat := if negative then Nat.pow 2 63 else 0
  match x with
  | .finite negative mantissa exponent =>
    if mantissa < Nat.pow 2 52 then sign negative + mantissa
    else sign negative + (exponent - leastExponent + 1).toNat * Nat.pow 2 52 + (mantissa - Nat.pow 2 52)
  | .infinite negative => sign negative + 0x7ff * Nat.pow 2 52
  | .nan negative => sign negative + 0x7ff * Nat.pow 2 52 + Nat.pow 2 51

end Binary64

end MatlabTidy
