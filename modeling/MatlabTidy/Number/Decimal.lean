import MatlabTidy.Number.Binary64

/-!
# Decimal texts of floating point numbers

`Decimal.shortest` finds the fewest digits that read back as the same number and, among those, the
digits nearest to it. `Binary64.shortText` writes them: positionally from a ten-thousandth up to
sixteen places before the point, with an exponent of at least two digits elsewhere.
`Binary64.fixedText` writes a number with two places after the point, a half to the even digit.
-/

namespace MatlabTidy

/-- The number `digits * 10 ^ power`. -/
structure Decimal where
  digits : Nat
  power : Int
  deriving DecidableEq, Repr

namespace Decimal

/-- Numerator and denominator of `mantissa * 2 ^ exponent / 10 ^ power`. -/
def ratio (mantissa : Nat) (exponent power : Int) : Nat × Nat :=
  let num := if exponent < 0 then mantissa else mantissa * Nat.pow 2 exponent.natAbs
  let den := if exponent < 0 then Nat.pow 2 exponent.natAbs else 1
  if power < 0 then (num * Nat.pow 10 power.natAbs, den) else (num, den * Nat.pow 10 power.natAbs)

/-- The place of the first digit of `mantissa * 2 ^ exponent`, for a positive mantissa. -/
def leadingPower (mantissa : Nat) (exponent : Int) : Int :=
  let guess := Int.fdiv ((mantissa.log2 + exponent) * 30103) 100000
  let reaches (power : Int) : Bool :=
    let r := ratio mantissa exponent power
    r.2 ≤ r.1
  if reaches (guess + 1) then guess + 1 else if reaches guess then guess else guess - 1

/-- Whether `digits * 10 ^ power` rounds to `mantissa * 2 ^ exponent`. -/
def roundsTo (mantissa : Nat) (exponent : Int) (digits : Nat) (power : Int) : Bool :=
  -- In units of a quarter of the last binary place: the number and the two ends of its interval.
  let below := if mantissa = Nat.pow 2 52 ∧ Binary64.leastExponent < exponent then 1 else 2
  let low := 4 * mantissa - below
  let high := 4 * mantissa + 2
  let r := ratio 1 (exponent - 2) power
  let value := digits * r.2
  if mantissa % 2 = 0 then low * r.1 ≤ value && value ≤ high * r.1
  else low * r.1 < value && value < high * r.1

/-- The digits nearest to a positive number that are `count` long and read back as it, if any. -/
def withDigits (mantissa : Nat) (exponent : Int) (count : Nat) : Option Decimal :=
  let power := leadingPower mantissa exponent - count + 1
  let r := ratio mantissa exponent power
  let nearest := roundDiv r.1 r.2
  let floor := r.1 / r.2
  let other := if nearest = floor then floor + 1 else floor
  if roundsTo mantissa exponent nearest power then some ⟨nearest, power⟩
  else if roundsTo mantissa exponent other power then some ⟨other, power⟩
  else none

/-- The shortest decimal that reads back as a positive number. -/
def shortest (mantissa : Nat) (exponent : Int) : Decimal :=
  ((List.range 17).findSome? fun count => withDigits mantissa exponent (count + 1)).getD
    ⟨mantissa, 0⟩

/-- The digits of a decimal, without the zeros at the end, and the place of the point in them. -/
def layout (d : Decimal) : List Char × Int :=
  let all := Nat.toDigits 10 d.digits
  let kept := (all.reverse.dropWhile (· = '0')).reverse
  (kept, d.power + all.length)

/-- The digits with a point, or with an exponent when the point is far away. -/
def text (d : Decimal) : List Char :=
  let (digits, point) := d.layout
  if -4 < point ∧ point ≤ 16 then
    if point ≤ 0 then
      '0' :: '.' :: List.replicate point.natAbs '0' ++ digits
    else
      let whole := digits.take point.toNat
      let rest := digits.drop point.toNat
      whole ++ List.replicate (point.toNat - digits.length) '0' ++ '.' ::
        (if rest.isEmpty then ['0'] else rest)
  else
    let power := point - 1
    let places := Nat.toDigits 10 power.natAbs
    digits.take 1 ++ (if digits.length ≤ 1 then [] else '.' :: digits.drop 1)
      ++ 'e' :: (if power < 0 then '-' else '+') ::
        (if places.length < 2 then '0' :: places else places)

end Decimal

namespace Binary64

/-- The sign in front of a number. -/
def signText (negative : Bool) : String := if negative then "-" else ""

/-- The shortest text that reads back as the number. -/
def shortText : Binary64 → String
  | .finite negative 0 _ => signText negative ++ "0.0"
  | .finite negative mantissa exponent =>
    signText negative ++ String.ofList (Decimal.shortest mantissa exponent).text
  | .infinite negative => signText negative ++ "inf"
  | .nan _ => "nan"

/-- The number with two places after the point. -/
def fixedText : Binary64 → String
  | .finite negative mantissa exponent =>
    let r := Decimal.ratio mantissa exponent (-2)
    let hundredths := roundDiv r.1 r.2
    let places := Nat.toDigits 10 (hundredths % 100)
    signText negative ++ toString (hundredths / 100) ++ "." ++
      String.ofList (List.replicate (2 - places.length) '0' ++ places)
  | .infinite negative => signText negative ++ "inf"
  | .nan _ => "nan"

end Binary64

end MatlabTidy
