import Mathlib
import BlackHoleScene.Proofs.Scalar.Lawful

/-!
# The order of machine doubles

A machine double is known by its parts: it is undefined, or it has a sign and is
infinite, zero, or a mantissa times a power of two. Doubles are compared part by
part, so the finite ones are in order and only the zeros are equal without being
the same. The parts that the order looks at are also those that an exact
comparison with an integer reads off the encoding, so machine doubles are lawful
scalars.
-/

namespace BlackHoleScene

open Float.Model

/-- The parts of a machine double. -/
def Double.parts (x : Float) : UnpackedFloat := x.toModel.unpack

namespace Double

/-! ### Comparison of parts -/

/-- Comparison the other way round is the opposite. -/
theorem compare_swap (a b : UnpackedFloat) :
    b.compare a = (a.compare b).map Ordering.swap := by
  have signs (s t : UnpackedFloat.Sign) : compare t s = (compare s t).swap := by
    cases s <;> cases t <;> rfl
  have mantissas (m n : Nat) : compare n m = (compare m n).swap :=
    Std.OrientedOrd.eq_swap
  have exponents (e f : Int) : compare f e = (compare e f).swap :=
    Std.OrientedOrd.eq_swap
  cases a with
  | notANumber => cases b <;> rfl
  | infinity s =>
      cases b with
      | infinity t => simp [UnpackedFloat.compare, signs s t]
      | notANumber => rfl
      | zero t => cases s <;> rfl
      | finite t n f positive => cases s <;> rfl
  | zero s =>
      cases b with
      | infinity t => cases t <;> rfl
      | notANumber => rfl
      | zero t => rfl
      | finite t n f positive => cases t <;> rfl
  | finite s m e positive =>
      cases b with
      | infinity t => cases s <;> cases t <;> rfl
      | notANumber => rfl
      | zero t => cases s <;> rfl
      | finite t n f positive' =>
          cases s <;> cases t <;>
            simp [UnpackedFloat.compare, mantissas m n, exponents e f,
              Ordering.swap_then]

/-- Finite parts can be compared. -/
theorem isSome_compare
    {a b : UnpackedFloat}
    (finite : a.isFinite = true)
    (other : b.isFinite = true) :
    (a.compare b).isSome = true := by
  cases a with
  | notANumber => cases finite
  | infinity s => cases finite
  | zero s =>
      cases b with
      | notANumber => cases other
      | infinity t => cases other
      | zero t => rfl
      | finite t n f positive => cases t <;> rfl
  | finite s m e positive =>
      cases b with
      | notANumber => cases other
      | infinity t => cases other
      | zero t => cases s <;> rfl
      | finite t n f positive' => cases s <;> cases t <;> rfl

/-- The parts of a zero. -/
def IsZero (a : UnpackedFloat) : Prop := ∃ sign, a = .zero sign

/-- Finite parts are equal in order only if they are the same, or both those of
a zero. -/
theorem eq_or_isZero_of_compare
    {a b : UnpackedFloat}
    (finite : a.isFinite = true)
    (equal : a.compare b = some .eq) :
    a = b ∨ IsZero a ∧ IsZero b := by
  cases a with
  | notANumber => cases finite
  | infinity s => cases finite
  | zero s =>
      cases b with
      | notANumber => cases equal
      | infinity t => cases t <;> cases equal
      | zero t => exact .inr ⟨⟨s, rfl⟩, ⟨t, rfl⟩⟩
      | finite t n f positive => cases t <;> cases equal
  | finite s m e positive =>
      cases b with
      | notANumber => cases equal
      | infinity t => cases s <;> cases t <;> cases equal
      | zero t => cases s <;> cases equal
      | finite t n f positive' =>
          left
          cases s <;> cases t <;>
            simp_all [UnpackedFloat.compare, Ordering.then_eq_eq]

/-- Parts compare as equal to those of a zero exactly if they are those of a
zero. -/
theorem compare_zero_iff
    {a : UnpackedFloat}
    {sign : UnpackedFloat.Sign} :
    a.compare (.zero sign) = some .eq ↔ IsZero a := by
  constructor
  · intro equal
    cases a with
    | notANumber => cases equal
    | infinity s => cases s <;> cases equal
    | zero s => exact ⟨s, rfl⟩
    | finite s m e positive => cases s <;> cases equal
  · rintro ⟨s, rfl⟩
    rfl

/-! ### Comparison of doubles -/

theorem lt_iff {x y : Float} :
    x < y ↔ (parts x).compare (parts y) = some .lt := by
  change decide (x.toModel < y.toModel) = true ↔ _
  rw [decide_eq_true_iff]
  change ((parts x).compare (parts y) == some .lt) = true ↔ _
  exact beq_iff_eq

theorem le_iff {x y : Float} :
    x ≤ y ↔
      ∃ order,
        (parts x).compare (parts y) = some order ∧ order ≠ .gt := by
  change decide (x.toModel ≤ y.toModel) = true ↔ _
  rw [decide_eq_true_iff]
  change ((parts x).compare (parts y)).any (·.isLE) = true ↔ _
  cases (parts x).compare (parts y) with
  | none => simp
  | some order => cases order <;> simp

/-- Doubles with the same parts are the same. -/
theorem eq_of_parts_eq
    {x y : Float}
    (same : parts x = parts y) :
    x = y := by
  obtain ⟨⟨xBits, xValid⟩⟩ := x
  obtain ⟨⟨yBits, yValid⟩⟩ := y
  have vectors := (UnpackedFloat.unpack_inj_of_valid xValid yValid).1 same
  obtain rfl : xBits = yBits := UInt64.toBitVec_inj.1 vectors
  rfl

theorem same_iff {x y : Float} :
    Scalar.Same x y ↔ (parts x).compare (parts y) = some .eq := by
  rw [Scalar.Same, le_iff, le_iff, compare_swap (parts x) (parts y)]
  cases (parts x).compare (parts y) with
  | none => simp
  | some order => cases order <;> simp

/-- Finite doubles are in some order, and in the opposite one the other way
round. -/
theorem exists_order
    {x y : Float}
    (finite : (parts x).isFinite = true)
    (other : (parts y).isFinite = true) :
    ∃ order,
      (parts x).compare (parts y) = some order ∧
        (parts y).compare (parts x) = some order.swap := by
  obtain ⟨order, found⟩ :=
    Option.isSome_iff_exists.1 (isSome_compare finite other)
  exact ⟨order, found,
    by rw [compare_swap (parts x), found, Option.map_some]⟩

theorem parts_zero : parts 0.0 = .zero .positive := rfl

/-- A double is equal to zero in value exactly if it is a zero. -/
theorem same_zero_iff {x : Float} : Scalar.Same x 0.0 ↔ IsZero (parts x) := by
  rw [same_iff, parts_zero, compare_zero_iff]

/-! ### Comparison with the integer zero -/

/-- The exponent and the fraction of a zero are both zero. -/
theorem isZero_parts_iff {x : Float} :
    IsZero (parts x) ↔
      x.toBits.toNat / Nat.pow 2 52 % Nat.pow 2 11 = 0 ∧
        x.toBits.toNat % Nat.pow 2 52 = 0 := by
  let bits : BitVec Format.binary64.numBits := x.toBits.toBitVec
  have field :
      UnpackedFloat.unpackExponent bits = 0#11 ↔
        x.toBits.toNat / Nat.pow 2 52 % Nat.pow 2 11 = 0 := by
    rw [UnpackedFloat.unpackExponent_def, ← BitVec.toNat_inj,
      BitVec.extractLsb'_toNat, Nat.shiftRight_eq_div_pow]
    rfl
  have fraction :
      UnpackedFloat.unpackMantissa bits = 0#52 ↔
        x.toBits.toNat % Nat.pow 2 52 = 0 := by
    rw [UnpackedFloat.unpackMantissa_def, ← BitVec.toNat_inj,
      BitVec.extractLsb'_toNat]
    rfl
  have unpacked : parts x = UnpackedFloat.unpack Format.binary64 bits := rfl
  rw [← field, ← fraction, unpacked, UnpackedFloat.unpack.eq_def]
  dsimp only
  split
  · rename_i full
    have nonzero : UnpackedFloat.unpackExponent bits ≠ 0#11 := by
      rw [full]
      decide
    split <;> simp [IsZero, nonzero]
  · split
    · rename_i empty
      split
      · rename_i none
        exact iff_of_true ⟨_, rfl⟩ ⟨empty, none⟩
      · rename_i some
        exact iff_of_false (fun ⟨_, zero⟩ => nomatch zero)
          (fun zero => some zero.2)
    · rename_i some
      exact iff_of_false (fun ⟨_, zero⟩ => nomatch zero)
        (fun zero => some zero.1)

/-- The mantissa of a finite encoding is zero exactly if its exponent and its
fraction are. -/
theorem mantissa_eq_zero_iff
    {encoding mantissa : Nat}
    {negative : Bool}
    {exponent : Int}
    (read :
      Decimal.Binary64.ofBits encoding = .finite negative mantissa exponent) :
    mantissa = 0 ↔
      encoding / Nat.pow 2 52 % Nat.pow 2 11 = 0 ∧
        encoding % Nat.pow 2 52 = 0 := by
  rw [Decimal.Binary64.ofBits] at read
  split_ifs at read with full none empty
  · cases read
    exact ⟨fun zero => ⟨empty, zero⟩, And.right⟩
  · cases read
    exact iff_of_false (Nat.add_pos_left (by decide) _).ne'
      (fun zero => empty zero.1)

/-- The exponent of an encoding that is not finite is not zero. -/
theorem field_ne_zero_of_not_finite
    (encoding : Nat)
    (read : ∀ negative mantissa exponent,
      Decimal.Binary64.ofBits encoding ≠ .finite negative mantissa exponent) :
    encoding / Nat.pow 2 52 % Nat.pow 2 11 ≠ 0 := by
  intro empty
  apply read
    (encoding / Nat.pow 2 63 % 2 == 1) (encoding % Nat.pow 2 52) (-1074)
  rw [Decimal.Binary64.ofBits, if_neg (by rw [empty]; decide), if_pos empty]

/-- Exact comparison finds a double equal to zero exactly if it is a zero. -/
theorem compareInt?_zero_iff {x : Float} :
    Decimal.compareInt? x 0 = some .eq ↔ IsZero (parts x) := by
  rw [isZero_parts_iff, Decimal.compareInt?]
  cases read : Decimal.Binary64.ofFloat x with
  | notANumber =>
      have field := field_ne_zero_of_not_finite x.toBits.toNat (by
        intro negative mantissa exponent other
        exact nomatch read.symm.trans other)
      exact iff_of_false (fun equal => nomatch equal) (fun zero => field zero.1)
  | infinite negative =>
      have field := field_ne_zero_of_not_finite x.toBits.toNat (by
        intro _ mantissa exponent other
        exact nomatch read.symm.trans other)
      exact iff_of_false (by cases negative <;> simp) (fun zero => field zero.1)
  | finite negative mantissa exponent =>
      rw [← mantissa_eq_zero_iff read]
      cases negative <;> by_cases below : exponent < 0 <;> simp [below]

/-- The machine doubles are lawful: finite ones are in order, and only the two
zeros are equal without being the same. -/
instance instLawfulScalarFloat : LawfulScalar Float where
  le_total := by
    intro x y finite other
    obtain ⟨order, there, back⟩ := exists_order finite other
    rw [le_iff, le_iff, there, back]
    cases order <;> simp
  lt_iff_not_le := by
    intro x y finite other
    obtain ⟨order, there, back⟩ := exists_order finite other
    rw [lt_iff, le_iff, there, back]
    cases order <;> simp
  eq_or_zero_of_same := by
    intro x y finite _ same
    rw [same_zero_iff, same_zero_iff]
    exact (eq_or_isZero_of_compare finite (same_iff.1 same)).imp_left
      eq_of_parts_eq
  compareInt?_zero_iff := fun _ => compareInt?_zero_iff.trans same_zero_iff.symm
  isFinite_zero := by decide +kernel
  isFinite_one := by decide +kernel
  zero_lt_one := by decide +kernel

end Double

end BlackHoleScene
