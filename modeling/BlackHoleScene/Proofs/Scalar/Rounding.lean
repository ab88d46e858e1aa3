import BlackHoleScene.Proofs.Scalar.Packing

/-!
# Rounding does not go beyond a double

What is at most a canonical double in magnitude is rounded to at most that
double. Shifting a mantissa to the right halves every bound on it, the bits that
fall off included, and rounding does not exceed a bound that is a natural; so
the exponent of what is rounded stays at most that of the bound:
`Double.Under.exponentAtMost_round`. Products with a factor up to one and
quotients by a divisor from one on are of this kind.
-/

namespace BlackHoleScene
namespace Double

open Float.Model (Format UnpackedFloat totalExponent)
open Float.Model.UnpackedFloat

/-! ### Extended mantissas -/

/-- The extended mantissa stands for at most a natural: if its mantissa is that
natural, nothing was cut off. -/
def AtMost (extended : ExtendedMantissa) (bound : Nat) : Prop :=
  extended.mantissa < bound ∨
    extended.mantissa = bound ∧ extended.roundBit = false ∧
      extended.stickyBit = false

namespace AtMost

variable {extended : ExtendedMantissa} {bound : Nat}

/-- A shift to the right halves a bound. -/
theorem shiftRightOne (atMost : AtMost extended (2 * bound)) :
    AtMost extended.shiftRightOne bound := by
  rcases atMost with below | ⟨equal, noRound, noSticky⟩
  · left
    simp only [ExtendedMantissa.shiftRightOne]
    omega
  · right
    simp [ExtendedMantissa.shiftRightOne, equal, noRound, noSticky]

/-- Shifts to the right divide a bound by a power of two. -/
theorem shiftRight
    (count : Nat)
    (atMost : AtMost extended (bound * 2 ^ count)) :
    AtMost (extended >>> count) bound := by
  induction count generalizing bound with
  | zero =>
      rw [Nat.pow_zero, Nat.mul_one] at atMost
      exact atMost
  | succ count previous =>
      apply shiftRightOne
      apply previous
      rwa [Nat.mul_comm 2, Nat.mul_assoc, ← Nat.pow_succ']

/-- Rounding does not exceed a bound. -/
theorem roundedMantissa_le (atMost : AtMost extended bound) :
    extended.roundedMantissa ≤ bound := by
  obtain ⟨mantissa, roundBit, stickyBit⟩ := extended
  cases roundBit <;> cases stickyBit <;>
    simp_all [AtMost, ExtendedMantissa.roundedMantissa,
      ExtendedMantissa.accuracy, Accuracy.roundToNearestEven] <;> omega

end AtMost

@[simp] theorem mantissa_ofMantissaAndAccuracy
    (mantissa : Nat)
    (accuracy : Accuracy) :
    (ExtendedMantissa.ofMantissaAndAccuracy mantissa accuracy).mantissa =
      mantissa := by
  cases accuracy with
  | exact => rfl
  | inexact order => cases order <;> rfl

/-- A quotient of naturals, with what it leaves over, stands for at most a
natural that is not below it. -/
theorem atMost_div
    {numerator denominator bound : Nat}
    (notBelow : numerator ≤ bound * denominator) :
    AtMost
      (.ofMantissaAndAccuracy (numerator / denominator)
        (accuracyOfFraction (numerator % denominator) denominator))
      bound := by
  have quotient : numerator / denominator ≤ bound :=
    Nat.div_le_of_le_mul (by rwa [Nat.mul_comm])
  rcases quotient.lt_or_eq with below | equal
  · exact .inl (by simpa using below)
  · have whole : numerator % denominator = 0 := by
      have split := Nat.div_add_mod' numerator denominator
      rw [equal] at split
      omega
    right
    rw [whole, equal]
    exact ⟨rfl, rfl, rfl⟩

/-! ### Rounding -/

/-- An extended mantissa at an exponent stands for at most a mantissa at another
exponent. -/
def Under
    (extended : ExtendedMantissa)
    (exponent : Int)
    (mantissa : Nat)
    (bound : Int) : Prop :=
  ∃ count : Nat,
    exponent + count = bound ∧ AtMost extended (mantissa * 2 ^ count)

section Under

variable
  {extended : ExtendedMantissa}
  {limit mantissa : Nat}
  {exponent bound : Int}
  {accuracy : Accuracy}

theorem Under.exponent_le (under : Under extended exponent limit bound) :
    exponent ≤ bound := by
  obtain ⟨count, place, _⟩ := under
  omega

/-- Rounding stays at most what the mantissa stood for at most. -/
theorem Under.rounded (under : Under extended exponent limit bound) :
    Under (.ofMantissaAndAccuracy extended.roundedMantissa .exact) exponent
      limit bound := by
  obtain ⟨count, place, atMost⟩ := under
  refine ⟨count, place, ?_⟩
  rcases atMost.roundedMantissa_le.lt_or_eq with below | equal
  · exact .inl below
  · exact .inr ⟨equal, rfl, rfl⟩

section Target

variable (short : limit < 2 ^ 53) (least : -1074 ≤ bound)
include short least

/-- The exponent to which a mantissa is brought is at most that of a double that
it does not exceed. -/
theorem targetExponent_le
    (under :
      Under (.ofMantissaAndAccuracy mantissa accuracy) exponent limit bound) :
    Format.binary64.targetExponent (totalExponent mantissa exponent) ≤
      bound := by
  obtain ⟨count, place, atMost⟩ := under
  have most : mantissa ≤ limit * 2 ^ count := by
    rcases atMost with below | ⟨equal, _⟩ <;>
      rw [mantissa_ofMantissaAndAccuracy] at * <;> omega
  have digits : mantissa.log2 < 53 + count := by
    by_cases zero : mantissa = 0
    · simp [zero]
    · rw [Nat.log2_lt zero, Nat.pow_add]
      exact most.trans_lt
        (Nat.mul_lt_mul_of_pos_right short (Nat.two_pow_pos count))
  have bits : Format.binary64.mantissaBits = 53 := rfl
  have minimum : Format.binary64.minExponent = -1074 := rfl
  rw [Format.targetExponent, totalExponent, bits, minimum]
  omega

/-- Bringing a mantissa to its exponent keeps it at most such a double. -/
theorem Under.shifted
    (under :
      Under (.ofMantissaAndAccuracy mantissa accuracy) exponent limit bound) :
    Under
      (shiftToTargetExponent Format.binary64 mantissa exponent accuracy).1
      (shiftToTargetExponent Format.binary64 mantissa exponent accuracy).2
      limit bound := by
  have target := targetExponent_le short least under
  obtain ⟨count, place, atMost⟩ := under
  let shift :=
    (Format.binary64.targetExponent (totalExponent mantissa exponent) -
      exponent).toNat
  have fits : shift ≤ count := by omega
  refine ⟨count - shift, ?_, ?_⟩
  · change exponent + shift + ((count - shift : Nat) : Int) = bound
    omega
  · apply AtMost.shiftRight shift
    rwa [Nat.mul_assoc, ← Nat.pow_add, Nat.sub_add_cancel fits]

end Target

/-- A zero, or a mantissa with at most an exponent. -/
def ExponentAtMost (bound : Int) : UnpackedFloat → Prop
  | .zero _ => True
  | .finite _ _ exponent _ => exponent ≤ bound
  | _ => False

/-- What is at most a double is rounded with at most its exponent. -/
theorem Under.exponentAtMost_round
    (short : limit < 2 ^ 53)
    (least : -1074 ≤ bound)
    (under :
      Under (.ofMantissaAndAccuracy mantissa accuracy) exponent limit bound)
    (sign : Sign) :
    ExponentAtMost bound
      (roundWithAccuracy Format.binary64 sign mantissa exponent accuracy) := by
  have shifted := under.shifted short least
  have carried := shifted.rounded.shifted short least
  unfold roundWithAccuracy
  dsimp only
  split_ifs
  · trivial
  · exact carried.exponent_le

/-- What is at most a double is rounded to a finite one. -/
theorem isFinite_encoded_of_under
    (canonical : Canonical limit bound)
    (under :
      Under (.ofMantissaAndAccuracy mantissa accuracy) exponent limit bound)
    (sign : Sign) :
    (encoded (roundWithAccuracy Format.binary64 sign mantissa exponent
      accuracy)).isFinite = true := by
  have small := under.exponentAtMost_round canonical.below canonical.least sign
  cases rounded :
    roundWithAccuracy Format.binary64 sign mantissa exponent accuracy with
  | notANumber => simp [rounded, ExponentAtMost] at small
  | infinity other => simp [rounded, ExponentAtMost] at small
  | zero other => simp [UnpackedFloat.isFinite]
  | finite other digits place positive =>
      rw [rounded] at small
      exact isFinite_encoded positive (small.trans canonical.greatest)

end Under

end Double
end BlackHoleScene
