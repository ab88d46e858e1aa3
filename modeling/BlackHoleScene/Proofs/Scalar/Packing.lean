import BlackHoleScene.Proofs.Scalar.Double

/-!
# The parts of computed doubles

An operation on machine doubles works on their parts and encodes what comes out.
Encoding keeps zeros, infinities and undefined results, and the sign of
everything; a mantissa with an exponent up to 971 stays finite, and beyond that
it becomes infinite. The parts that are read off an encoding are canonical:
`Double.canonical_of_parts`.
-/

namespace BlackHoleScene
namespace Double

open Float.Model (Format UnpackedFloat)
open Float.Model.UnpackedFloat

/-- What parts become when they are encoded and read again. -/
def encoded (a : UnpackedFloat) : UnpackedFloat :=
  unpack Format.binary64 (pack Format.binary64 a)

section Operations

variable (x y : Float)

theorem parts_add :
    parts (x + y) = encoded (add Format.binary64 (parts x) (parts y)) := rfl

theorem parts_sub :
    parts (x - y) = encoded (sub Format.binary64 (parts x) (parts y)) := rfl

theorem parts_mul :
    parts (x * y) = encoded (mul Format.binary64 (parts x) (parts y)) := rfl

theorem parts_div :
    parts (x / y) = encoded (div Format.binary64 (parts x) (parts y)) := rfl

theorem parts_sqrt : parts x.sqrt = encoded (sqrt Format.binary64 (parts x)) :=
  rfl

theorem parts_neg : parts (-x) = encoded (parts x).neg := rfl

/-- The parts of a double are read again as they are. -/
theorem encoded_parts : encoded (parts x) = parts x := by
  rw [encoded, parts]
  exact congrArg (unpack Format.binary64) (pack_unpack_of_valid x.toModel.valid)

end Operations

@[simp] theorem encoded_notANumber : encoded .notANumber = .notANumber :=
  unpack_packedNaN

@[simp] theorem encoded_zero (sign : Sign) :
    encoded (.zero sign) = .zero sign := unpack_packedZero

@[simp] theorem encoded_infinity (sign : Sign) :
    encoded (.infinity sign) = .infinity sign := by
  simp [encoded, pack, unpack, packedInfinity]

/-- An encoding whose exponent is not the greatest is finite. -/
theorem isFinite_unpack_packComponents
    {sign : Sign}
    {exponent : BitVec 11}
    {mantissa : BitVec 52}
    (below : exponent ≠ -1#11) :
    (unpack Format.binary64
      (packComponents Format.binary64 sign exponent mantissa)).isFinite =
      true := by
  rw [unpack.eq_def]
  simp only [unpackExponent_packComponents, if_neg below]
  split_ifs <;> rfl

section Finite

variable {sign : Sign} {mantissa : Nat} {exponent : Int}
  (positive : 0 < mantissa)

/-- A mantissa with an exponent up to 971 is encoded as finite. -/
theorem isFinite_encoded (small : exponent ≤ 971) :
    (encoded (.finite sign mantissa exponent positive)).isFinite = true := by
  rw [encoded, pack.eq_def]
  dsimp only
  rw [if_neg (by simp [Format.exponentBias]; omega)]
  split_ifs
  · apply isFinite_unpack_packComponents
    intro full
    have field := congrArg BitVec.toNat full
    simp [Format.exponentBias] at field
    omega
  · exact isFinite_unpack_packComponents (by decide)

/-- A mantissa with an exponent beyond 971 is encoded as infinite. -/
theorem encoded_eq_infinity (great : 971 < exponent) :
    encoded (.finite sign mantissa exponent positive) = .infinity sign := by
  rw [← encoded_infinity, encoded, encoded, pack.eq_def]
  dsimp only
  rw [if_pos (by simp [Format.exponentBias]; omega)]
  rfl

end Finite

/-- Only an undefined result is encoded as one. -/
theorem encoded_ne_notANumber
    {a : UnpackedFloat}
    (defined : a ≠ .notANumber) :
    encoded a ≠ .notANumber := by
  cases a with
  | notANumber => exact absurd rfl defined
  | infinity sign => simp
  | zero sign => simp
  | finite sign mantissa exponent positive =>
      rcases le_or_gt exponent 971 with small | great
      · have finite :
            (encoded (.finite sign mantissa exponent positive)).isFinite =
              true :=
          isFinite_encoded positive small
        intro undefined
        rw [undefined] at finite
        cases finite
      · simp [encoded_eq_infinity positive great]

/-! ### Signs -/

/-- Parts with a sign in place of theirs. -/
def withSign (sign : Sign) : UnpackedFloat → UnpackedFloat
  | .notANumber => .notANumber
  | .infinity _ => .infinity sign
  | .zero _ => .zero sign
  | .finite _ mantissa exponent positive =>
      .finite sign mantissa exponent positive

/-- Encoded fields are read again with their sign. -/
theorem unpack_packComponents_sign
    (sign other : Sign)
    (exponent : BitVec 11)
    (mantissa : BitVec 52) :
    unpack Format.binary64
      (packComponents Format.binary64 sign exponent mantissa) =
      withSign sign
        (unpack Format.binary64
          (packComponents Format.binary64 other exponent mantissa)) := by
  rw [unpack.eq_def, unpack.eq_def]
  simp only [unpackSign_packComponents, unpackExponent_packComponents,
    unpackMantissa_packComponents, Sign.ofBitVec_toBitVec]
  split_ifs <;> rfl

/-- Encoding keeps signs. -/
theorem encoded_withSign (sign : Sign) (a : UnpackedFloat) :
    encoded (withSign sign a) = withSign sign (encoded a) := by
  cases a with
  | notANumber => simp [withSign]
  | infinity other => simp [withSign]
  | zero other => simp [withSign]
  | finite other mantissa exponent positive =>
      rw [withSign, encoded, encoded, pack.eq_def, pack.eq_def]
      dsimp only
      split_ifs <;> exact unpack_packComponents_sign sign other _ _

/-- The negative of a double has its parts with the opposite sign. -/
theorem parts_neg_eq (x : Float) : parts (-x) = (parts x).neg := by
  rw [parts_neg]
  cases read : parts x with
  | notANumber => simp [neg]
  | infinity sign => simp [neg]
  | zero sign => simp [neg]
  | finite sign mantissa exponent positive =>
      have kept : encoded (.finite sign mantissa exponent positive) =
          .finite sign mantissa exponent positive := by
        rw [← read, encoded_parts]
      calc encoded (.finite (-sign) mantissa exponent positive)
        _ = withSign (-sign)
              (encoded (.finite sign mantissa exponent positive)) :=
            encoded_withSign (-sign) (.finite sign mantissa exponent positive)
        _ = .finite (-sign) mantissa exponent positive := by rw [kept, withSign]

/-! ### Canonical parts -/

/-- The mantissa has 53 bits, or fewer with the least exponent. -/
structure Canonical (mantissa : Nat) (exponent : Int) : Prop where
  below : mantissa < 2 ^ 53
  least : -1074 ≤ exponent
  greatest : exponent ≤ 971
  normal : 2 ^ 52 ≤ mantissa ∨ exponent = -1074

/-- The parts of a double are canonical. -/
theorem canonical_of_parts
    {x : Float}
    {sign : Sign}
    {mantissa : Nat}
    {exponent : Int}
    {positive : 0 < mantissa}
    (read : parts x = .finite sign mantissa exponent positive) :
    Canonical mantissa exponent := by
  let bits : BitVec Format.binary64.numBits := x.toModel.toBits.toBitVec
  have field : (unpackExponent bits).toNat < 2048 := (unpackExponent bits).isLt
  have fraction : (unpackMantissa bits).toNat < 2 ^ 52 :=
    (unpackMantissa bits).isLt
  have implicit :
      (1#1 ++ unpackMantissa bits).toNat =
        2 ^ 52 + (unpackMantissa bits).toNat := by
    rw [BitVec.toNat_append,
      ← Nat.shiftLeft_add_eq_or_of_lt (unpackMantissa bits).isLt]
    rfl
  have bias : Format.binary64.exponentBias = 1023 := rfl
  change unpack Format.binary64 bits = _ at read
  rw [unpack.eq_def] at read
  dsimp only at read
  split_ifs at read with full none empty zero
  · have lowest : (unpackExponent bits).toNat = 0 :=
      congrArg BitVec.toNat empty
    cases read
    rw [lowest, bias]
    exact
      { below := by omega
        least := by decide
        greatest := by decide
        normal := .inr (by decide) }
  · have notLowest : (unpackExponent bits).toNat ≠ 0 :=
      fun lowest => empty (BitVec.eq_of_toNat_eq lowest)
    have notHighest : (unpackExponent bits).toNat ≠ 2047 :=
      fun highest => full (BitVec.eq_of_toNat_eq highest)
    cases read
    rw [implicit, bias]
    exact
      { below := by omega
        least := by omega
        greatest := by omega
        normal := .inl (by omega) }

end Double
end BlackHoleScene
