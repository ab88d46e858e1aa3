import BlackHoleScene.Proofs.Scalar.Ieee
import BlackHoleScene.Proofs.Scalar.Rounding

/-!
# Machine doubles follow the standard

The arithmetic of machine doubles keeps finite doubles finite where `IeeeScalar`
asks for it, and never leads back from infinite or undefined ones. Sine and
cosine are those of the machine, of which nothing is known here; all that is
asked of them is to stay between minus one and one on finite doubles:
`Double.ieeeScalar_doubleWith`.
-/

namespace BlackHoleScene

/-- Machine doubles with any sine and cosine. -/
def DoubleWith (_sin _cos : Float → Float) : Type := Float

instance instScalarDoubleWith (sin cos : Float → Float) :
    Scalar (DoubleWith sin cos) :=
  { instScalarFloat with
    sin := sin
    cos := cos }

/-- With the sine and the cosine of the machine, these are the doubles of the
running program. -/
theorem instScalarDoubleWith_machine :
    instScalarDoubleWith Float.sin Float.cos = instScalarFloat := rfl

namespace Double

open Float.Model (Format UnpackedFloat totalExponent)
open Float.Model.UnpackedFloat
open Scalar (IsUndefined Same WithinOne)

/-! ### Order -/

theorem parts_one : parts 1.0 = .finite .positive (2 ^ 52) (-52) (by decide) :=
  rfl

theorem parts_neg_one :
    parts (-1.0) = .finite .negative (2 ^ 52) (-52) (by decide) := rfl

/-- Only the parts of an undefined double do not compare to themselves. -/
theorem isUndefined_iff {x : Float} :
    IsUndefined x ↔ parts x = .notANumber := by
  have reflexive (sign : Sign) : compare sign sign = .eq := by
    cases sign <;> rfl
  rw [IsUndefined, le_iff]
  cases parts x with
  | notANumber => simp [UnpackedFloat.compare]
  | infinity sign => simp [UnpackedFloat.compare, reflexive]
  | zero sign => simp [UnpackedFloat.compare]
  | finite sign mantissa exponent positive =>
      cases sign <;> simp [UnpackedFloat.compare]

/-- Finite parts are those of a zero, or have a mantissa. -/
theorem isZero_or_finite
    {a : UnpackedFloat}
    (finite : a.isFinite = true) :
    IsZero a ∨
      ∃ sign mantissa exponent positive,
        a = .finite sign mantissa exponent positive := by
  cases a with
  | notANumber => cases finite
  | infinity sign => cases finite
  | zero sign => exact .inl ⟨sign, rfl⟩
  | finite sign mantissa exponent positive =>
      exact .inr ⟨sign, mantissa, exponent, positive, rfl⟩

/-- The parts of a double between minus one and one. -/
def Unit : UnpackedFloat → Prop
  | .zero _ => True
  | .finite _ mantissa exponent _ =>
      exponent < -52 ∨ exponent = -52 ∧ mantissa ≤ 2 ^ 52
  | _ => False

/-- Two mantissas with exponents are in order if the exponents are, and the
mantissas where the exponents are the same. -/
theorem then_ne_gt_iff {m n : Nat} {e f : Int} :
    (compare e f).then (compare m n) ≠ .gt ↔
      e < f ∨ e = f ∧ m ≤ n := by
  rcases lt_trichotomy e f with less | rfl | greater
  · simp [compare_lt_iff_lt.2 less, less]
  · simp [compare_gt_iff_gt]
  · simp [compare_gt_iff_gt.2 greater, greater.not_gt, greater.ne']

theorem then_swap {m n : Nat} {e f : Int} :
    ((compare f e).then (compare n m)).swap =
      (compare e f).then (compare m n) := by
  rw [Ordering.swap_then, ← Std.OrientedOrd.eq_swap,
    ← Std.OrientedOrd.eq_swap]

/-- A double is between minus one and one exactly if its parts are. -/
theorem withinOne_iff {x : Float} : WithinOne x ↔ Unit (parts x) := by
  rw [WithinOne, le_iff, le_iff, parts_one, parts_neg_one]
  cases parts x with
  | notANumber => simp [UnpackedFloat.compare, Unit]
  | infinity sign => cases sign <;> simp [UnpackedFloat.compare, Unit]
  | zero sign => simp [UnpackedFloat.compare, Unit]
  | finite sign mantissa exponent positive =>
      cases sign with
      | positive =>
          simp only [UnpackedFloat.compare, Unit, Option.some.injEq,
            exists_eq_left', then_ne_gt_iff]
          simp
      | negative =>
          simp only [UnpackedFloat.compare, Unit, Option.some.injEq,
            exists_eq_left', then_swap, then_ne_gt_iff]
          simp

theorem withinOne_zero : WithinOne (0.0 : Float) := by
  rw [withinOne_iff, parts_zero]
  trivial

theorem withinOne_one : WithinOne (1.0 : Float) := by
  rw [withinOne_iff, parts_one]
  exact .inr ⟨rfl, le_rfl⟩

theorem withinOne_neg {x : Float} (within : WithinOne x) : WithinOne (-x) := by
  rw [withinOne_iff] at within ⊢
  rw [parts_neg_eq]
  cases read : parts x <;> rw [read] at within <;> exact within

/-- Parts between minus one and one are finite. -/
theorem isFinite_of_unit
    {a : UnpackedFloat}
    (unit : Unit a) :
    a.isFinite = true := by
  cases a with
  | notANumber => exact unit.elim
  | infinity sign => exact unit.elim
  | zero sign => rfl
  | finite sign mantissa exponent positive => rfl

/-- A double from zero on that is not from one on is between minus one and one.
-/
theorem withinOne_of_below
    {x : Float}
    (nonneg : 0.0 ≤ x)
    (below : ¬1.0 ≤ x) :
    WithinOne x := by
  rw [withinOne_iff]
  rw [le_iff, parts_zero] at nonneg
  rw [le_iff, parts_one] at below
  cases read : parts x with
  | notANumber => simp [read, UnpackedFloat.compare] at nonneg
  | infinity sign =>
      cases sign <;> simp [read, UnpackedFloat.compare] at nonneg below
  | zero sign => trivial
  | finite sign mantissa exponent positive =>
      cases sign with
      | negative => simp [read, UnpackedFloat.compare] at nonneg
      | positive =>
          simp only [read, UnpackedFloat.compare, Option.some.injEq,
            exists_eq_left', then_ne_gt_iff] at below
          simp only [Unit]
          omega

/-- The parts of a finite double that is not at most one. -/
theorem parts_of_not_le_one
    {x : Float}
    (finite : (parts x).isFinite = true)
    (above : ¬x ≤ 1.0) :
    ∃ mantissa exponent positive,
      parts x = .finite .positive mantissa exponent positive ∧
        -52 ≤ exponent := by
  rw [le_iff, parts_one] at above
  obtain ⟨sign, read⟩ | ⟨sign, mantissa, exponent, positive, read⟩ :=
    isZero_or_finite finite
  · simp [read, UnpackedFloat.compare] at above
  · cases sign with
    | negative => simp [read, UnpackedFloat.compare] at above
    | positive =>
        simp only [read, UnpackedFloat.compare, Option.some.injEq,
          exists_eq_left', then_ne_gt_iff] at above
        exact ⟨mantissa, exponent, positive, read, by omega⟩

/-- The parts of a double from zero on. -/
theorem zero_le_iff {x : Float} :
    0.0 ≤ x ↔
      IsZero (parts x) ∨
        parts x ≠ .notANumber ∧ parts x = withSign .positive (parts x) := by
  rw [le_iff, parts_zero]
  cases parts x with
  | notANumber => simp [UnpackedFloat.compare, IsZero]
  | infinity sign =>
      cases sign <;> simp [UnpackedFloat.compare, IsZero, withSign]
  | zero sign => simp [UnpackedFloat.compare, IsZero]
  | finite sign mantissa exponent positive =>
      cases sign <;> simp [UnpackedFloat.compare, IsZero, withSign]

/-! ### Results that stay finite -/

/-- A mantissa between minus one and one is at most the power of two that its
exponent divides by. -/
theorem mantissa_le_of_unit
    {sign : Sign}
    {mantissa : Nat}
    {exponent : Int}
    {positive : 0 < mantissa}
    (canonical : Canonical mantissa exponent)
    (unit : Unit (.finite sign mantissa exponent positive)) :
    ∃ count : Nat, exponent + count = 0 ∧ mantissa ≤ 2 ^ count := by
  refine ⟨(-exponent).toNat, ?_, ?_⟩
  · rcases unit with below | ⟨equal, _⟩ <;> omega
  · rcases unit with below | ⟨rfl, most⟩
    · exact canonical.below.le.trans
        (Nat.pow_le_pow_right (by decide) (by omega))
    · exact most

/-- A product of mantissas is at most one of them where the other is at most a
power of two that its exponent divides by. -/
theorem under_of_le
    {mantissa limit count : Nat}
    {exponent bound : Int}
    (place : exponent + count = bound)
    (most : mantissa ≤ limit * 2 ^ count) :
    Under (.ofMantissaAndAccuracy mantissa .exact) exponent limit bound := by
  refine ⟨count, place, ?_⟩
  rcases most.lt_or_eq with below | equal
  · exact .inl below
  · exact .inr ⟨equal, rfl, rfl⟩

section Finite

variable {x y : Float}

theorem isFinite_mul_of_left
    (unit : Unit (parts x))
    (finite : (parts y).isFinite = true) :
    (parts (x * y)).isFinite = true := by
  rw [parts_mul]
  obtain ⟨sign, readX⟩ | ⟨sign, n, e, positive, readX⟩ :=
    isZero_or_finite (isFinite_of_unit unit)
  · obtain ⟨other, readY⟩ | ⟨other, m, f, positive', readY⟩ :=
      isZero_or_finite finite
    · simp [readX, readY, mul, UnpackedFloat.isFinite]
    · simp [readX, readY, mul, UnpackedFloat.isFinite]
  · obtain ⟨other, readY⟩ | ⟨other, m, f, positive', readY⟩ :=
      isZero_or_finite finite
    · simp [readX, readY, mul, UnpackedFloat.isFinite]
    · rw [readX] at unit
      obtain ⟨count, place, most⟩ :=
        mantissa_le_of_unit (canonical_of_parts readX) unit
      rw [readX, readY]
      apply isFinite_encoded_of_under (canonical_of_parts readY)
      have place' : e + f + count = f := by omega
      apply under_of_le place'
      rw [Nat.mul_comm]
      exact Nat.mul_le_mul_left m most

/-- The factors of a product can change places. -/
theorem mul_comm (x y : Float) : x * y = y * x := by
  have signs (s t : Sign) : s * t = t * s := by cases s <;> cases t <;> rfl
  apply eq_of_parts_eq
  rw [parts_mul, parts_mul]
  congr 1
  cases parts x <;> cases parts y <;>
    simp [mul, signs, Nat.mul_comm, Int.add_comm]

theorem isFinite_mul_of_right
    (finite : (parts x).isFinite = true)
    (unit : Unit (parts y)) :
    (parts (x * y)).isFinite = true := by
  rw [mul_comm]
  exact isFinite_mul_of_left unit finite

/-- A quotient by a mantissa from one on is at most what is divided. -/
theorem under_divCore
    {m n : Nat}
    {e f : Int}
    (dividend : Canonical m e)
    (divisor : Canonical n f)
    (above : -52 ≤ f) :
    let quotient := divCore Format.binary64 m e n f
    Under
      (.ofMantissaAndAccuracy quotient.1 quotient.2.2) quotient.2.1 m e := by
  have long : 2 ^ 52 ≤ n := by
    rcases divisor.normal with long | lowest
    · exact long
    · omega
  have digits : m.log2 < 53 := by
    by_cases zero : m = 0
    · simp [zero]
    · exact (Nat.log2_lt zero).2 dividend.below
  have divisorDigits : 52 ≤ n.log2 := (Nat.le_log2 (by omega)).2 long
  let target := min (e - f)
    (Format.binary64.targetExponent (totalExponent m e - totalExponent n f))
  have lower : target ≤ e := by
    have bits : Format.binary64.mantissaBits = 53 := rfl
    have minimum : Format.binary64.minExponent = -1074 := rfl
    have least := dividend.least
    simp only [target, Format.targetExponent, totalExponent, bits, minimum]
    omega
  have apart : target ≤ e - f := min_le_left _ _
  refine ⟨(e - target).toNat, ?_, atMost_div ?_⟩
  · change target + _ = e
    omega
  · change m <<< (e - f - target).toNat ≤ m * 2 ^ (e - target).toNat * n
    rw [Nat.shiftLeft_eq, Nat.mul_assoc]
    apply Nat.mul_le_mul_left
    calc 2 ^ (e - f - target).toNat
        ≤ 2 ^ ((e - target).toNat + 52) :=
          Nat.pow_le_pow_right (by decide) (by omega)
      _ = 2 ^ (e - target).toNat * 2 ^ 52 := Nat.pow_add _ _ _
      _ ≤ 2 ^ (e - target).toNat * n := Nat.mul_le_mul_left _ long

theorem isFinite_div
    (finite : (parts x).isFinite = true)
    (other : (parts y).isFinite = true)
    (above : ¬y ≤ 1.0) :
    (parts (x / y)).isFinite = true := by
  obtain ⟨n, f, positive, readY, notBelow⟩ :=
    parts_of_not_le_one other above
  rw [parts_div, readY]
  obtain ⟨sign, readX⟩ | ⟨sign, m, e, positive', readX⟩ :=
    isZero_or_finite finite
  · simp [readX, div, UnpackedFloat.isFinite]
  · have dividend : Canonical m e := canonical_of_parts readX
    rw [readX]
    exact isFinite_encoded_of_under dividend
      (under_divCore dividend (canonical_of_parts readY) notBelow) _

theorem isFinite_add_zero
    (finite : (parts x).isFinite = true)
    (zero : IsZero (parts y)) :
    (parts (x + y)).isFinite = true := by
  obtain ⟨other, readY⟩ := zero
  rw [parts_add, readY]
  obtain ⟨sign, readX⟩ | ⟨sign, m, e, positive, readX⟩ :=
    isZero_or_finite finite
  · simp only [readX, add]
    split <;> simp [UnpackedFloat.isFinite]
  · rw [readX]
    exact isFinite_encoded positive (canonical_of_parts readX).greatest

theorem isFinite_zero_add
    (zero : IsZero (parts x))
    (finite : (parts y).isFinite = true) :
    (parts (x + y)).isFinite = true := by
  obtain ⟨sign, readX⟩ := zero
  rw [parts_add, readX]
  obtain ⟨other, readY⟩ | ⟨other, m, e, positive, readY⟩ :=
    isZero_or_finite finite
  · simp only [readY, add]
    split <;> simp [UnpackedFloat.isFinite]
  · rw [readY]
    exact isFinite_encoded positive (canonical_of_parts readY).greatest

theorem isZero_mul_zero (finite : (parts x).isFinite = true) :
    IsZero (parts (x * 0.0)) := by
  rw [parts_mul, parts_zero]
  obtain ⟨sign, readX⟩ | ⟨sign, m, e, positive, readX⟩ :=
    isZero_or_finite finite
  · rw [readX]
    exact ⟨sign * Sign.positive, encoded_zero _⟩
  · rw [readX]
    exact ⟨sign * Sign.positive, encoded_zero _⟩

theorem isZero_zero_mul (finite : (parts x).isFinite = true) :
    IsZero (parts (0.0 * x)) := by
  rw [mul_comm]
  exact isZero_mul_zero finite

theorem isFinite_radian :
    Scalar.isFinite (Scalar.pi / 180.0 : Float) = true := by decide +kernel

end Finite

/-! ### Results that are defined -/

theorem roundWithAccuracy_ne_notANumber
    (sign : Sign)
    (mantissa : Nat)
    (exponent : Int)
    (accuracy : Accuracy) :
    roundWithAccuracy Format.binary64 sign mantissa exponent accuracy ≠
      .notANumber := by
  unfold roundWithAccuracy
  dsimp only
  split_ifs <;> simp

theorem normalize_ne_notANumber (mantissa exponent : Int) (sign : Sign) :
    UnpackedFloat.normalize Format.binary64 mantissa exponent sign ≠
      .notANumber := by
  unfold UnpackedFloat.normalize
  split
  · exact roundWithAccuracy_ne_notANumber _ _ _ _
  · simp
  · exact roundWithAccuracy_ne_notANumber _ _ _ _

section Defined

variable {x y : Float}

theorem defined_mul
    (finite : (parts x).isFinite = true)
    (other : (parts y).isFinite = true) :
    ¬IsUndefined (x * y) := by
  rw [isUndefined_iff, parts_mul]
  apply encoded_ne_notANumber
  obtain ⟨sign, readX⟩ | ⟨sign, m, e, positive, readX⟩ :=
    isZero_or_finite finite <;>
    obtain ⟨sign', readY⟩ | ⟨sign', n, f, positive', readY⟩ :=
      isZero_or_finite other <;>
    simp [readX, readY, mul, roundWithAccuracy_ne_notANumber]

theorem defined_sub
    (finite : (parts x).isFinite = true)
    (other : (parts y).isFinite = true) :
    ¬IsUndefined (x - y) := by
  rw [isUndefined_iff, parts_sub]
  apply encoded_ne_notANumber
  obtain ⟨sign, readX⟩ | ⟨sign, m, e, positive, readX⟩ :=
    isZero_or_finite finite <;>
    obtain ⟨sign', readY⟩ | ⟨sign', n, f, positive', readY⟩ :=
      isZero_or_finite other <;>
    simp [readX, readY, sub, normalize_ne_notANumber]
  split <;> simp

theorem parts_two : parts 2.0 = .finite .positive (2 ^ 52) (-51) (by decide) :=
  rfl

theorem defined_double (defined : ¬IsUndefined x) :
    ¬IsUndefined (2.0 * x) := by
  rw [isUndefined_iff] at defined ⊢
  rw [parts_mul, parts_two]
  apply encoded_ne_notANumber
  cases readX : parts x with
  | notANumber => exact absurd readX defined
  | infinity sign => simp [mul]
  | zero sign => simp [mul]
  | finite sign m e positive => simp [mul, roundWithAccuracy_ne_notANumber]

end Defined

/-! ### Results from zero on -/

/-- Positive parts are encoded as a double from zero on. -/
theorem zero_le_of_positive
    {x : Float}
    {a : UnpackedFloat}
    (read : parts x = encoded a)
    (defined : a ≠ .notANumber)
    (positive : withSign .positive a = a) :
    0.0 ≤ x := by
  rw [zero_le_iff, read]
  exact .inr
    ⟨encoded_ne_notANumber defined, by rw [← encoded_withSign, positive]⟩

theorem withSign_roundWithAccuracy
    (sign : Sign)
    (mantissa : Nat)
    (exponent : Int)
    (accuracy : Accuracy) :
    withSign sign
      (roundWithAccuracy Format.binary64 sign mantissa exponent accuracy) =
      roundWithAccuracy Format.binary64 sign mantissa exponent accuracy := by
  unfold roundWithAccuracy
  dsimp only
  split_ifs <;> rfl

section Nonneg

variable {x : Float}

theorem sqrt_nonneg
    (defined : ¬IsUndefined x)
    (notNegative : ¬x < 0.0) :
    0.0 ≤ x.sqrt := by
  rw [isUndefined_iff] at defined
  rw [lt_iff, parts_zero] at notNegative
  cases readX : parts x with
  | notANumber => exact absurd readX defined
  | zero sign =>
      apply zero_le_iff.2
      rw [parts_sqrt, readX]
      exact .inl ⟨sign, encoded_zero sign⟩
  | infinity sign =>
      cases sign with
      | negative => simp [readX, UnpackedFloat.compare] at notNegative
      | positive =>
          exact zero_le_of_positive
            (by rw [parts_sqrt, readX]) (by simp [sqrt]) rfl
  | finite sign m e positive =>
      cases sign with
      | negative => simp [readX, UnpackedFloat.compare] at notNegative
      | positive =>
          apply zero_le_of_positive (by rw [parts_sqrt, readX])
          · exact roundWithAccuracy_ne_notANumber _ _ _ _
          · exact withSign_roundWithAccuracy _ _ _ _

theorem one_div_nonneg
    (nonneg : 0.0 ≤ x)
    (nonzero : ¬Same x 0.0) :
    0.0 ≤ 1.0 / x := by
  rw [same_zero_iff] at nonzero
  obtain ⟨defined, positive⟩ := (zero_le_iff.1 nonneg).resolve_left nonzero
  cases readX : parts x with
  | notANumber => exact absurd readX defined
  | zero sign => exact absurd ⟨sign, readX⟩ nonzero
  | infinity sign =>
      rw [readX] at positive
      cases positive
      exact zero_le_of_positive (by rw [parts_div, parts_one, readX])
        (by simp [div]) rfl
  | finite sign m e nonzero' =>
      rw [readX] at positive
      cases positive
      apply zero_le_of_positive (by rw [parts_div, parts_one, readX])
      · exact roundWithAccuracy_ne_notANumber _ _ _ _
      · exact withSign_roundWithAccuracy _ _ _ _

end Nonneg

/-! ### Operands of finite results -/

section Operands

variable {x y : Float}

theorem isFinite_of_mul (finite : (parts (x * y)).isFinite = true) :
    (parts x).isFinite = true ∧ (parts y).isFinite = true := by
  rw [parts_mul] at finite
  cases readX : parts x <;> cases readY : parts y <;>
    simp [readX, readY, mul, UnpackedFloat.isFinite] at finite ⊢

theorem isFinite_of_add (finite : (parts (x + y)).isFinite = true) :
    (parts x).isFinite = true ∧ (parts y).isFinite = true := by
  rw [parts_add] at finite
  cases readX : parts x with
  | notANumber => simp [readX, add, UnpackedFloat.isFinite] at finite
  | infinity sign =>
      cases readY : parts y with
      | infinity other =>
          rw [readX, readY, add] at finite
          split_ifs at finite <;> simp [UnpackedFloat.isFinite] at finite
      | notANumber => simp [readX, readY, add, UnpackedFloat.isFinite] at finite
      | zero other => simp [readX, readY, add, UnpackedFloat.isFinite] at finite
      | finite other m e positive =>
          simp [readX, readY, add, UnpackedFloat.isFinite] at finite
  | zero sign =>
      cases readY : parts y <;>
        simp [readX, readY, add, UnpackedFloat.isFinite] at finite ⊢
  | finite sign m e positive =>
      cases readY : parts y <;>
        simp [readX, readY, add, UnpackedFloat.isFinite] at finite ⊢

theorem isFinite_of_div (finite : (parts (x / y)).isFinite = true) :
    (parts x).isFinite = true := by
  rw [parts_div] at finite
  cases readX : parts x <;> cases readY : parts y <;>
    simp [readX, readY, div, UnpackedFloat.isFinite] at finite ⊢

theorem isFinite_of_sqrt (finite : (parts x.sqrt).isFinite = true) :
    (parts x).isFinite = true := by
  rw [parts_sqrt] at finite
  cases readX : parts x with
  | notANumber => simp [readX, sqrt, UnpackedFloat.isFinite] at finite
  | infinity sign =>
      cases sign <;> simp [readX, sqrt, UnpackedFloat.isFinite] at finite
  | zero sign => rfl
  | finite sign m e positive => rfl

end Operands

/-- With a sine and a cosine that stay between minus one and one on finite
doubles, machine doubles follow the standard. -/
theorem ieeeScalar_doubleWith
    {sin cos : Float → Float}
    (sine :
      ∀ x : Float, x.isFinite = true → -1.0 ≤ sin x ∧ sin x ≤ 1.0)
    (cosine :
      ∀ x : Float, x.isFinite = true → -1.0 ≤ cos x ∧ cos x ≤ 1.0) :
    IeeeScalar (DoubleWith sin cos) where
  finite_of_withinOne := fun within => isFinite_of_unit (withinOne_iff.1 within)
  withinOne_zero := withinOne_zero
  withinOne_one := withinOne_one
  withinOne_neg := fun within => withinOne_neg within
  withinOne_of_below := withinOne_of_below
  withinOne_sin := sine _
  withinOne_cos := cosine _
  finite_radian := isFinite_radian
  finite_mul_of_left :=
    fun within => isFinite_mul_of_left (withinOne_iff.1 within)
  finite_mul_of_right := fun finite within =>
    isFinite_mul_of_right finite (withinOne_iff.1 within)
  finite_div := isFinite_div
  mul_zero := fun finite => same_zero_iff.2 (isZero_mul_zero finite)
  zero_mul := fun finite => same_zero_iff.2 (isZero_zero_mul finite)
  finite_add_zero :=
    fun finite zero => isFinite_add_zero finite (same_zero_iff.1 zero)
  finite_zero_add := fun zero => isFinite_zero_add (same_zero_iff.1 zero)
  defined_mul := defined_mul
  defined_sub := defined_sub
  defined_double := defined_double
  sqrt_nonneg := sqrt_nonneg
  one_div_nonneg := one_div_nonneg
  finite_of_mul := isFinite_of_mul
  finite_of_add := isFinite_of_add
  finite_of_div := isFinite_of_div
  finite_of_sqrt := isFinite_of_sqrt

end Double
end BlackHoleScene
