import BlackHoleScene.Decimal.Binary64

/-!
# Decimal text of a fixed number of places

`fixed` writes a double with a given number of digits after the point, and
`scientific` with a given number of digits after the leading one and an
exponent of at least two digits. The exact binary value is rounded once, to
nearest with ties to even.
-/

namespace BlackHoleScene
namespace Decimal

/-- Decimal digits of a natural, most significant first. -/
def digits (n : Nat) : List Char := Nat.toDigits 10 n

/-- Digits of a natural, filled up on the left with zeros to the given width. -/
def paddedDigits (width n : Nat) : List Char :=
  let written := digits n
  List.replicate (width - written.length) '0' ++ written

/-- The largest `k` with `10 ^ k ≤ numerator / denominator`, for a positive
quotient, which is scaled to one or above first. -/
def decimalExponent (numerator denominator : Nat) : Int :=
  let scale :=
    if denominator ≤ numerator then 0
    else denominator.log2 - numerator.log2 + 1
  let scaled := numerator * Nat.pow 10 scale / denominator
  ((digits scaled).length : Int) - 1 - scale

/-- Numerator and denominator of `mantissa * 2 ^ exponent`. -/
def quotientOf (mantissa : Nat) (exponent : Int) : Nat × Nat :=
  if exponent < 0 then (mantissa, Nat.pow 2 exponent.natAbs)
  else (mantissa * Nat.pow 2 exponent.natAbs, 1)

/-- The sign and what follows it. -/
def signed (negative : Bool) (magnitude : List Char) : List Char :=
  if negative then '-' :: magnitude else magnitude

/-- Text of the values that are no finite numbers. -/
def nonFinite : Binary64 → List Char
  | .infinite negative => signed negative "inf".toList
  | _ => "nan".toList

/-- An exponent with its sign and at least two digits. -/
def exponentText (exponent : Int) : List Char :=
  'e' :: (if exponent < 0 then '-' else '+') :: paddedDigits 2 exponent.natAbs

/-- Write digits with a point before the last `places` of them. -/
def withPoint (places : Nat) (written : List Char) : List Char :=
  if places = 0 then written
  else
    let whole := written.length - places
    written.take whole ++ '.' :: written.drop whole

/-- Write a double with `places` digits after the point. -/
def fixed (places : Nat) (x : Float) : String :=
  String.ofList <|
    match Binary64.ofFloat x with
    | .finite negative mantissa exponent =>
        let (numerator, denominator) := quotientOf mantissa exponent
        let scaled := roundDiv (numerator * Nat.pow 10 places) denominator
        signed negative (withPoint places (paddedDigits (places + 1) scaled))
    | other => nonFinite other

/-- Coefficient of `places + 1` digits and decimal exponent of a positive
quotient. Rounding up may reach the next power of ten. -/
def scientificParts (places numerator denominator : Nat) : Nat × Int :=
  let exponent := decimalExponent numerator denominator
  let shift := (places : Int) - exponent
  let coefficient :=
    if shift < 0 then roundDiv numerator (denominator * Nat.pow 10 shift.natAbs)
    else roundDiv (numerator * Nat.pow 10 shift.natAbs) denominator
  if coefficient = Nat.pow 10 (places + 1) then
    (Nat.pow 10 places, exponent + 1)
  else (coefficient, exponent)

/-- Write a double with one digit before the point, `places` after it, and an
exponent. -/
def scientific (places : Nat) (x : Float) : String :=
  String.ofList <|
    match Binary64.ofFloat x with
    | .finite negative mantissa exponent =>
        let (numerator, denominator) := quotientOf mantissa exponent
        let (coefficient, power) :=
          if numerator = 0 then (0, 0)
          else scientificParts places numerator denominator
        signed negative
          (withPoint places (paddedDigits (places + 1) coefficient) ++
            exponentText power)
    | other => nonFinite other

end Decimal
end BlackHoleScene
