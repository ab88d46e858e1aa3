/-!
# Double-precision numbers taken apart

A finite double is an integer mantissa times a power of two. `Binary64.ofBits`
reads the three fields of the 64-bit encoding, and `Binary64.nearest` finds the
double closest to a quotient of naturals. Both work on naturals alone, so every
digit printed or read elsewhere in the library comes from exact arithmetic.
-/

namespace BlackHoleScene
namespace Decimal

/-- Divide and round to the nearest natural; a tie goes to the even neighbour.
-/
def roundDiv (numerator denominator : Nat) : Nat :=
  let quotient := numerator / denominator
  let twice := 2 * (numerator % denominator)
  if twice < denominator then quotient
  else if denominator < twice then quotient + 1
  else quotient + quotient % 2

/-- A double by its parts: a finite one is `±mantissa * 2 ^ exponent`. -/
inductive Binary64
  | notANumber
  | infinite (negative : Bool)
  | finite
      (negative : Bool)
      (mantissa : Nat)
      (exponent : Int)
  deriving DecidableEq

namespace Binary64

/-- Read the sign, exponent and fraction fields of an encoding. -/
def ofBits (encoding : Nat) : Binary64 :=
  let negative := encoding / Nat.pow 2 63 % 2 == 1
  let field : Nat := encoding / Nat.pow 2 52 % Nat.pow 2 11
  let fraction := encoding % Nat.pow 2 52
  if field = 2047 then
    if fraction = 0 then .infinite negative else .notANumber
  else if field = 0 then .finite negative fraction (-1074)
  else .finite negative (Nat.pow 2 52 + fraction) ((field : Int) - 1075)

/-- The parts of a machine double. -/
def ofFloat (x : Float) : Binary64 :=
  ofBits x.toBits.toNat

/-- The encoding of positive infinity, and the first one past the finite
doubles. -/
def infinityBits : Nat := 2047 * Nat.pow 2 52

/-- Encoding of the double nearest to a quotient, ties to even, or of infinity
beyond the largest one. A mantissa rounded up to a power of two carries into the
exponent field. -/
def nearestBits (numerator denominator : Nat) : Nat :=
  if numerator = 0 then 0
  else
    let estimate : Int := (numerator.log2 : Int) - (denominator.log2 : Int)
    let scaled (exponent : Int) : Nat × Nat :=
      if exponent < 0 then (numerator * Nat.pow 2 exponent.natAbs, denominator)
      else (numerator, denominator * Nat.pow 2 exponent.natAbs)
    let wide := scaled (estimate - 52)
    let fitting :=
      if wide.1 / wide.2 < Nat.pow 2 52 then estimate - 53 else estimate - 52
    let exponent := max fitting (-1074)
    let chosen := scaled exponent
    min infinityBits
      ((exponent + 1074).toNat * Nat.pow 2 52 + roundDiv chosen.1 chosen.2)

/-- The machine double of a sign and the encoding of a magnitude. -/
def withSign (negative : Bool) (encoding : Nat) : Float :=
  let magnitude := Float.ofBits encoding.toUInt64
  if negative then -magnitude else magnitude

/-- The machine double nearest to `±numerator / denominator`, infinite when it
is out of range. -/
def nearest (negative : Bool) (numerator denominator : Nat) : Float :=
  withSign negative (nearestBits numerator denominator)

/-- The infinite machine double of a sign. -/
def infinity (negative : Bool) : Float := withSign negative infinityBits

end Binary64

/-- The double nearest to an integer, or `none` when it rounds beyond the
largest one. -/
def floatOfInt? (n : Int) : Option Float :=
  if Binary64.nearestBits n.natAbs 1 < Binary64.infinityBits then
    some (Binary64.nearest (n < 0) n.natAbs 1)
  else none

/-- Order of a double relative to an integer, by exact values; `none` for a
double that is not a number. -/
def compareInt? (x : Float) (n : Int) : Option Ordering :=
  match Binary64.ofFloat x with
  | .notANumber => none
  | .infinite negative => some (if negative then .lt else .gt)
  | .finite negative mantissa exponent =>
      let signed : Int := if negative then -mantissa else mantissa
      if exponent < 0 then some (compare signed (n * Nat.pow 2 exponent.natAbs))
      else some (compare (signed * Nat.pow 2 exponent.natAbs) n)

end Decimal
end BlackHoleScene
