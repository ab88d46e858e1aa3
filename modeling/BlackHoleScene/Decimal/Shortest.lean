import BlackHoleScene.Decimal.Rounded

/-!
# The shortest decimal that reads back

`shortestParts` finds the fewest decimal digits that identify a double, and of
those the digits nearest to it. `Layout` records how such digits are laid out,
and `scalarLayout` is the layout of every scalar the library writes.
-/

namespace BlackHoleScene
namespace Decimal

/-- A positive double on a common scale: its value and the ends of the interval
that rounds to it, over one denominator. -/
structure RoundingInterval where
  low : Nat
  value : Nat
  high : Nat
  denominator : Nat
  /-- The ends round to the double as well. -/
  closed : Bool

namespace RoundingInterval

/-- The interval of reals that round to `mantissa * 2 ^ exponent`. Below a power
of two the spacing of doubles halves, and so does the lower arm. -/
def ofParts (mantissa : Nat) (exponent : Int) : RoundingInterval :=
  let lowerArm := if mantissa = Nat.pow 2 52 ∧ -1074 < exponent then 1 else 2
  let (unit, denominator) := quotientOf 1 (exponent - 2)
  { low := (4 * mantissa - lowerArm) * unit
    value := 4 * mantissa * unit
    high := (4 * mantissa + 2) * unit
    denominator := denominator
    closed := mantissa % 2 = 0 }

/-- Measure the interval in units of `10 ^ power`. -/
def inUnits (interval : RoundingInterval) (power : Int) : RoundingInterval :=
  if power < 0 then
    let factor := Nat.pow 10 power.natAbs
    { interval with
      low := interval.low * factor
      value := interval.value * factor
      high := interval.high * factor }
  else
    { interval with
      denominator := interval.denominator * Nat.pow 10 power.natAbs }

/-- A whole number of units lies in the interval. -/
def Holds (interval : RoundingInterval) (units : Nat) : Prop :=
  if interval.closed then
    interval.low ≤ units * interval.denominator ∧
      units * interval.denominator ≤ interval.high
  else
    interval.low < units * interval.denominator ∧
      units * interval.denominator < interval.high

instance
    (interval : RoundingInterval)
    (units : Nat) : Decidable (interval.Holds units) := by
  unfold Holds
  infer_instance

/-- The whole number of units nearest to the value, among its two neighbours
that lie in the interval. -/
def nearestUnits? (interval : RoundingInterval) : Option Nat :=
  let below := interval.value / interval.denominator
  if interval.Holds below then
    if interval.Holds (below + 1) then
      some (roundDiv interval.value interval.denominator)
    else some below
  else if interval.Holds (below + 1) then some (below + 1)
  else none

end RoundingInterval

/-- Coefficient and power of ten of the shortest decimal that reads back as
`mantissa * 2 ^ exponent`, for a positive mantissa. Seventeen digits always
suffice. -/
def shortestParts (mantissa : Nat) (exponent : Int) : Nat × Int :=
  let interval := RoundingInterval.ofParts mantissa exponent
  let leading := decimalExponent interval.value interval.denominator
  let attempt (count : Nat) : Option (Nat × Int) :=
    let power := leading - count
    (interval.inUnits power).nearestUnits?.map fun units => (units, power)
  ((List.range 17).findSome? attempt).getD
    (let power := leading - 16
     let finest := interval.inUnits power
     (roundDiv finest.value finest.denominator, power))

/-- How shortest digits are laid out. -/
structure Layout where
  /-- Least decimal exponent written without an exponent part. -/
  positionalFrom : Int
  /-- Least decimal exponent above those written without an exponent part. -/
  positionalBelow : Int
  /-- What is written after the digits of a whole number. -/
  wholeSuffix : List Char

/-- Scalars are positional from `0.0001` up to below `10 ^ 16`, and whole ones
keep one zero after the point. -/
def scalarLayout : Layout where
  positionalFrom := -4
  positionalBelow := 16
  wholeSuffix := ['.', '0']

/-- Drop the zeros at the end. -/
def dropTrailingZeros (written : List Char) : List Char :=
  (written.reverse.dropWhile (· == '0')).reverse

/-- Lay out the digits of `coefficient * 10 ^ power`, of which `point` stand
before the point. -/
def Layout.write
    (layout : Layout)
    (coefficient : Nat)
    (power : Int) : List Char :=
  let all := digits coefficient
  let point := (all.length : Int) + power
  let significant := dropTrailingZeros all
  let exponent := point - 1
  if layout.positionalFrom ≤ exponent ∧
      exponent < layout.positionalBelow then
    if point ≤ 0 then
      '0' :: '.' :: (List.replicate point.natAbs '0' ++ significant)
    else if significant.length ≤ point.toNat then
      significant ++ List.replicate (point.toNat - significant.length) '0' ++
        layout.wholeSuffix
    else
      significant.take point.toNat ++ '.' :: significant.drop point.toNat
  else
    match significant with
    | lead :: [] => lead :: exponentText exponent
    | lead :: rest => lead :: '.' :: (rest ++ exponentText exponent)
    | [] => exponentText exponent

/-- Write a double with the fewest digits that read back as the same double. -/
def shortest (x : Float) : String :=
  String.ofList <|
    match Binary64.ofFloat x with
    | .finite negative mantissa exponent =>
        if mantissa = 0 then signed negative ('0' :: scalarLayout.wholeSuffix)
        else
          let (coefficient, power) := shortestParts mantissa exponent
          signed negative (scalarLayout.write coefficient power)
    | other => nonFinite other

end Decimal
end BlackHoleScene
