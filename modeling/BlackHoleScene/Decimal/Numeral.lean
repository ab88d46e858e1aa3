import BlackHoleScene.Decimal.Binary64
import BlackHoleScene.Text.Blank
import BlackHoleScene.Text.DecimalDigit

/-!
# Reading decimal numerals

`readPlain?` reads a numeral written in ASCII: an optional sign, digits with an
optional point, and an optional exponent; or one of the words for infinity and
for what is not a number, in any case. The value is rounded once, to the nearest
double. `read?` first accepts what people write in settings: blanks around the
numeral, digits of any script, and single underscores between digits.
-/

namespace BlackHoleScene
namespace Decimal

/-- The character is an ASCII digit. -/
def isDigit (c : Char) : Bool := '0' ≤ c && c ≤ '9'

/-- The value of a row of ASCII digits. -/
def digitsValue (written : List Char) : Nat :=
  written.foldl (fun value c => 10 * value + (c.toNat - '0'.toNat)) 0

/-- A sign in front of a numeral, and what follows it. -/
def takeSign : List Char → Bool × List Char
  | '-' :: rest => (true, rest)
  | '+' :: rest => (false, rest)
  | rest => (false, rest)

/-- Split off the digits in front. -/
def takeDigits (text : List Char) : List Char × List Char :=
  (text.takeWhile isDigit, text.dropWhile isDigit)

/-- The exponent part that fills the rest of a numeral; zero when there is
none. -/
def readExponent? : List Char → Option Int
  | [] => some 0
  | c :: rest =>
      if c = 'e' ∨ c = 'E' then
        let (negative, unsigned) := takeSign rest
        let (written, leftover) := takeDigits unsigned
        if written.isEmpty ∨ ¬leftover.isEmpty then none
        else
          let magnitude : Int := digitsValue written
          some (if negative then -magnitude else magnitude)
      else none

/-- The double nearest to `±coefficient * 10 ^ power`.

Decimals below `10 ^ -400` all round to zero, and those from `10 ^ 400` on to
infinity, so they are decided without computing the power. -/
def nearestDecimal
    (negative : Bool)
    (coefficient : Nat)
    (power : Int) : Float :=
  let magnitude : Int := (Nat.toDigits 10 coefficient).length + power
  if coefficient = 0 ∨ magnitude < -400 then Binary64.withSign negative 0
  else if 400 < magnitude then Binary64.infinity negative
  else if power < 0 then
    Binary64.nearest negative coefficient (Nat.pow 10 power.natAbs)
  else Binary64.nearest negative (coefficient * Nat.pow 10 power.natAbs) 1

/-- Read an unsigned numeral made of digits, an optional point and an optional
exponent. -/
def readDigits? (negative : Bool) (text : List Char) : Option Float :=
  let (whole, afterWhole) := takeDigits text
  let (fraction, afterFraction) :=
    match afterWhole with
    | '.' :: rest => takeDigits rest
    | rest => ([], rest)
  if whole.isEmpty ∧ fraction.isEmpty then none
  else
    (readExponent? afterFraction).map fun exponent =>
      nearestDecimal negative (digitsValue (whole ++ fraction))
        (exponent - fraction.length)

/-- Read a numeral written in plain ASCII. -/
def readPlain? (text : List Char) : Option Float :=
  let (negative, unsigned) := takeSign text
  let word := unsigned.map Char.toLower
  if word = "inf".toList ∨ word = "infinity".toList then
    some (Binary64.infinity negative)
  else if word = "nan".toList then some (0.0 / 0.0)
  else readDigits? negative unsigned

/-- The ASCII character that a character of a numeral stands for: digits of
other scripts and blanks of Unicode stand for their ASCII counterparts. -/
def plainCharacter (c : Char) : Char :=
  if c.toNat < 128 then c
  else if Text.isBlank c then ' '
  else
    match Text.digitValue? c with
    | some value => Char.ofNat ('0'.toNat + value)
    | none => c

/-- The blanks of ASCII that may stand around a numeral. -/
def isPlainBlank (c : Char) : Bool :=
  c = ' ' || ('\t' ≤ c && c ≤ '\r')

/-- Drop the underscores of a numeral, each of which must stand between two
digits. -/
def dropSeparators? (before : Char) : List Char → Option (List Char)
  | [] => some []
  | '_' :: after :: rest =>
      if isDigit before ∧ isDigit after then
        (dropSeparators? after rest).map (after :: ·)
      else none
  | c :: rest =>
      if c = '_' then none else (dropSeparators? c rest).map (c :: ·)

/-- Read a numeral as it is written in settings. -/
def read? (text : List Char) : Option Float :=
  (dropSeparators? ' '
    (Text.trimBy isPlainBlank (text.map plainCharacter))).bind readPlain?

end Decimal
end BlackHoleScene
