import BlackHoleScene.Proofs.Scalar.IeeeDouble
import BlackHoleScene.Proofs.Text.Trim

/-!
# Numerals that are no number

A numeral made of digits is rounded to a double that is infinite at most. So a
numeral that is read is undefined in one case only, where it is the word for
what is not a number. It can be written in capital and small letters, after a
sign or none, with blanks around it: `Decimal.isUndefined_of_read?_iff`.
-/

namespace BlackHoleScene

open Scalar (IsUndefined)

/-! ### Encodings up to infinity -/

namespace Double

open Float.Model (Format UnpackedFloat)
open Float.Model.UnpackedFloat

theorem neg_eq_notANumber_iff {a : UnpackedFloat} :
    a.neg = .notANumber ↔ a = .notANumber := by
  cases a <;> simp [neg]

/-- The encodings up to that of infinity, the only one of these with the
greatest exponent, are those of defined doubles. -/
theorem defined_ofBits
    {bits : UInt64}
    (small : bits.toNat ≤ Decimal.Binary64.infinityBits) :
    ¬IsUndefined (Float.ofBits bits) := by
  let vector : BitVec Format.binary64.numBits := bits.toBitVec
  have unpacked :
      parts (Float.ofBits bits) = encoded (unpack Format.binary64 vector) := rfl
  rw [isUndefined_iff, unpacked]
  apply encoded_ne_notANumber
  rw [unpack.eq_def]
  dsimp only
  split_ifs with full nonzero
  · simp
  · exfalso
    apply nonzero
    have field : bits.toNat / 2 ^ 52 % 2 ^ 11 = 2047 := by
      have read := congrArg BitVec.toNat full
      rwa [unpackExponent_def, BitVec.extractLsb'_toNat,
        Nat.shiftRight_eq_div_pow] at read
    have limit : bits.toNat ≤ 2047 * 2 ^ 52 := small
    rw [unpackMantissa_def, ← BitVec.toNat_inj, BitVec.extractLsb'_toNat]
    change bits.toNat % 2 ^ 52 = 0
    omega
  · simp
  · simp
  · simp

/-- A double from zero on is one that is defined and not below zero. -/
theorem zero_le_iff_not_lt {x : Float} :
    0.0 ≤ x ↔ ¬x < 0.0 ∧ ¬IsUndefined x := by
  rw [isUndefined_iff, le_iff, lt_iff, parts_zero]
  cases parts x with
  | notANumber => simp [UnpackedFloat.compare]
  | infinity sign => cases sign <;> simp [UnpackedFloat.compare]
  | zero sign => simp [UnpackedFloat.compare]
  | finite sign mantissa exponent positive =>
      cases sign <;> simp [UnpackedFloat.compare]

/-- No double is above an undefined one. -/
theorem not_lt_of_isUndefined
    {x y : Float}
    (undefined : IsUndefined x) :
    ¬x < y := by
  rw [isUndefined_iff] at undefined
  rw [lt_iff, undefined]
  simp [UnpackedFloat.compare]

end Double

namespace Decimal

/-! ### Numerals of digits -/

namespace Binary64

theorem nearestBits_le (numerator denominator : Nat) :
    nearestBits numerator denominator ≤ infinityBits := by
  unfold nearestBits
  split
  · exact Nat.zero_le _
  · exact Nat.min_le_left _ _

theorem defined_withSign
    (negative : Bool)
    {encoding : Nat}
    (small : encoding ≤ infinityBits) :
    ¬IsUndefined (withSign negative encoding) := by
  have magnitude : ¬IsUndefined (Float.ofBits encoding.toUInt64) :=
    Double.defined_ofBits ((Nat.mod_le encoding _).trans small)
  unfold withSign
  dsimp only
  split
  · rw [Double.isUndefined_iff] at magnitude ⊢
    rwa [Double.parts_neg_eq, Double.neg_eq_notANumber_iff]
  · exact magnitude

end Binary64

/-- A decimal is rounded to a double that is defined. -/
theorem defined_nearestDecimal
    (negative : Bool)
    (coefficient : Nat)
    (power : Int) :
    ¬IsUndefined (nearestDecimal negative coefficient power) := by
  unfold nearestDecimal
  dsimp only
  split_ifs
  · exact Binary64.defined_withSign negative (Nat.zero_le _)
  · exact Binary64.defined_withSign negative le_rfl
  · exact Binary64.defined_withSign negative (Binary64.nearestBits_le _ _)
  · exact Binary64.defined_withSign negative (Binary64.nearestBits_le _ _)

theorem defined_of_readDigits?
    {negative : Bool}
    {text : List Char}
    {x : Float}
    (read : readDigits? negative text = some x) :
    ¬IsUndefined x := by
  unfold readDigits? at read
  dsimp only at read
  split_ifs at read
  obtain ⟨exponent, _, rfl⟩ := Option.map_eq_some_iff.1 read
  exact defined_nearestDecimal _ _ _

/-! ### The word for what is not a number -/

/-- The word for what is not a number, in any case, after a sign or none. -/
def IsNanWord (core : List Char) : Prop :=
  ∃ sign ∈ [[], ['+'], ['-']], ∃ word : List Char,
    word.map Char.toLower = ['n', 'a', 'n'] ∧ core = sign ++ word

/-- The text is the word for what is not a number, with blanks around it. -/
def SpellsNan (text : List Char) : Prop :=
  ∃ before core after : List Char,
    (∀ c ∈ before ++ after, isPlainBlank (plainCharacter c) = true) ∧
      IsNanWord core ∧ text = before ++ core ++ after

/-- The reader takes the sign off the word. -/
theorem isNanWord_iff {core : List Char} :
    IsNanWord core ↔
      (takeSign core).2.map Char.toLower = ['n', 'a', 'n'] := by
  constructor
  · rintro ⟨sign, signed, word, nan, rfl⟩
    have unsigned : takeSign word = (false, word) := by
      unfold takeSign
      split
      · cases nan
      · cases nan
      · rfl
    simp only [List.mem_cons, List.not_mem_nil, or_false] at signed
    rcases signed with rfl | rfl | rfl
    · rwa [List.nil_append, unsigned]
    · exact nan
    · exact nan
  · intro nan
    unfold takeSign at nan
    split at nan
    · exact ⟨['-'], by simp, _, nan, rfl⟩
    · exact ⟨['+'], by simp, _, nan, rfl⟩
    · exact ⟨[], by simp, _, nan, rfl⟩

/-- A numeral in plain characters is undefined exactly if it is the word. -/
theorem readPlain?_undefined_iff {core : List Char} :
    (∃ x, readPlain? core = some x ∧ IsUndefined x) ↔ IsNanWord core := by
  have written : "nan".toList = ['n', 'a', 'n'] := rfl
  rw [isNanWord_iff]
  unfold readPlain?
  dsimp only
  rw [written]
  split_ifs with infinite nan
  · refine iff_of_false ?_ ?_
    · rintro ⟨x, read, undefined⟩
      cases read
      exact Binary64.defined_withSign _ le_rfl undefined
    · intro nan
      rw [nan] at infinite
      revert infinite
      decide
  · exact iff_of_true ⟨_, rfl, by decide +kernel⟩ nan
  · refine iff_of_false ?_ nan
    rintro ⟨x, read, undefined⟩
    exact defined_of_readDigits? read undefined

/-! ### Characters of words -/

/-- A character that words are made of: it stands for itself, and no other
character does. -/
structure Wordy (d : Char) : Prop where
  plain : ∀ c, plainCharacter c = d ↔ c = d
  noDigit : isDigit d = false
  noSeparator : d ≠ '_'
  visible : isPlainBlank d = false

theorem digitValue?_lt_ten
    {c : Char}
    {value : Nat}
    (read : Text.digitValue? c = some value) :
    value < 10 := by
  obtain ⟨first, found, rfl⟩ := Option.map_eq_some_iff.1 read
  have within := List.find?_some found
  simp only [Bool.and_eq_true, decide_eq_true_eq] at within
  omega

/-- Digits and blanks apart, the characters of ASCII stand for themselves, and
no others do. -/
theorem plainCharacter_eq_iff
    {c d : Char}
    (ascii : d.toNat < 128)
    (noDigit : isDigit d = false)
    (noSpace : d ≠ ' ') :
    plainCharacter c = d ↔ c = d := by
  have other (high : ¬c.toNat < 128) : c ≠ d := by
    rintro rfl
    exact high ascii
  unfold plainCharacter
  split_ifs with low blank
  · rfl
  · exact iff_of_false noSpace.symm (other low)
  · split
    · next value found =>
        refine iff_of_false ?_ (other low)
        rintro rfl
        have digits :
            ∀ n < 10, isDigit (Char.ofNat ('0'.toNat + n)) = true := by decide
        rw [digits value (digitValue?_lt_ten found)] at noDigit
        cases noDigit
    · rfl

/-- Only small and capital letters become those of the word when they are made
small. -/
theorem mem_of_toLower_mem
    {c : Char}
    (small : c.toLower ∈ ['n', 'a', 'n']) :
    c ∈ ['n', 'N', 'a', 'A'] := by
  unfold Char.toLower at small
  split at small
  · next capital =>
      have most : c.toNat ≤ 90 := UInt32.le_iff_toNat_le.1 capital.2
      simp only [List.mem_cons, List.not_mem_nil, or_false, Char.ext_iff,
        ← UInt32.toNat_inj, UInt32.toNat_add, Char.toNat_val, Char.reduceVal,
          UInt32.reduceSub, UInt32.reduceToNat, Nat.reducePow] at small ⊢
      omega
  · simp only [List.mem_cons, List.not_mem_nil, or_false] at small ⊢
    tauto

theorem IsNanWord.wordy
    {core : List Char}
    (nan : IsNanWord core) :
    ∀ d ∈ core, Wordy d := by
  intro d member
  obtain ⟨sign, signed, word, nan, rfl⟩ := nan
  have letter : d ∈ ['+', '-', 'n', 'N', 'a', 'A'] := by
    rcases List.mem_append.1 member with ofSign | ofWord
    · have signs :
          ∀ sign ∈ [[], ['+'], ['-']], ∀ c ∈ sign,
            c = '+' ∨ c = '-' := by simp
      rcases signs sign signed d ofSign with rfl | rfl
      · exact .head _
      · exact .tail _ (.head _)
    · have small : d.toLower ∈ word.map Char.toLower :=
        List.mem_map_of_mem ofWord
      rw [nan] at small
      exact .tail _ (.tail _ (mem_of_toLower_mem small))
  have properties :
      ∀ d ∈ ['+', '-', 'n', 'N', 'a', 'A'],
        (d.toNat < 128 ∧ d ≠ ' ') ∧ isDigit d = false ∧ d ≠ '_' ∧
          isPlainBlank d = false := by
    simp [isDigit, isPlainBlank]
  obtain ⟨⟨ascii, noSpace⟩, noDigit, noSeparator, visible⟩ :=
    properties d letter
  exact
    { plain := fun _ => plainCharacter_eq_iff ascii noDigit noSpace
      noDigit
      noSeparator
      visible }

section Words

variable {word : List Char} (wordy : ∀ d ∈ word, Wordy d)
include wordy

theorem map_plainCharacter_eq_iff {text : List Char} :
    text.map plainCharacter = word ↔ text = word := by
  induction word generalizing text with
  | nil => simp
  | cons d rest ih =>
      obtain ⟨first, later⟩ := List.forall_mem_cons.1 wordy
      cases text with
      | nil => simp
      | cons c more =>
          rw [List.map_cons, List.cons.injEq, List.cons.injEq, first.plain,
            ih later]

/-- Underscores are dropped between digits only, so none were dropped where a
word is left. -/
theorem dropSeparators?_eq_some_iff
    {before : Char}
    {text : List Char} :
    dropSeparators? before text = some word ↔ text = word := by
  constructor
  · intro dropped
    fun_induction dropSeparators? before text generalizing word with
    | case1 =>
        cases dropped
        rfl
    | case2 before after rest digits ih =>
        obtain ⟨more, _, rfl⟩ := Option.map_eq_some_iff.1 dropped
        have noDigit := (wordy after List.mem_cons_self).noDigit
        rw [digits.2] at noDigit
        cases noDigit
    | case3 => cases dropped
    | case4 => cases dropped
    | case5 before c rest _ _ ih =>
        obtain ⟨more, found, rfl⟩ := Option.map_eq_some_iff.1 dropped
        rw [ih (List.forall_mem_cons.1 wordy).2 found]
  · rintro rfl
    induction text generalizing before with
    | nil => rfl
    | cons c rest ih =>
        obtain ⟨first, later⟩ := List.forall_mem_cons.1 wordy
        have kept :
            dropSeparators? before (c :: rest) =
              (dropSeparators? c rest).map (c :: ·) := by
          rw [dropSeparators?.eq_3 before c rest fun _ _ separator _ =>
            first.noSeparator separator, if_neg first.noSeparator]
        rw [kept, ih later, Option.map_some]

end Words

/-! ### Undefined numerals -/

/-- A text reads as an undefined double exactly if it spells what is not a
number. -/
theorem read?_undefined_iff {text : List Char} :
    (∃ x, read? text = some x ∧ IsUndefined x) ↔ SpellsNan text := by
  constructor
  · rintro ⟨x, read, undefined⟩
    obtain ⟨core, dropped, plain⟩ := Option.bind_eq_some_iff.1 read
    have nan : IsNanWord core :=
      readPlain?_undefined_iff.1 ⟨x, plain, undefined⟩
    obtain ⟨before, after, blanks, whole⟩ :=
      Text.exists_append_trimBy (fun c => isPlainBlank (plainCharacter c)) text
    rw [dropSeparators?_eq_some_iff nan.wordy, Text.trimBy_map,
      map_plainCharacter_eq_iff nan.wordy] at dropped
    exact ⟨before, core, after, blanks, nan, dropped ▸ whole⟩
  · rintro ⟨before, core, after, blanks, nan, rfl⟩
    obtain ⟨x, plain, undefined⟩ := readPlain?_undefined_iff.2 nan
    have visible : ∀ c ∈ core, isPlainBlank (plainCharacter c) = false := by
      intro c member
      have wordy := nan.wordy c member
      rw [(wordy.plain c).2 rfl, wordy.visible]
    have nonempty : core ≠ [] := by
      rintro rfl
      cases isNanWord_iff.1 nan
    have trimmed :
        Text.trimBy isPlainBlank
          ((before ++ core ++ after).map plainCharacter) = core := by
      rw [Text.trimBy_map, Text.trimBy_append blanks visible nonempty,
        map_plainCharacter_eq_iff nan.wordy]
    refine ⟨x, ?_, undefined⟩
    rw [read?, trimmed, (dropSeparators?_eq_some_iff nan.wordy).2 rfl]
    exact plain

/-- A numeral that is read is undefined exactly if it spells what is not a
number. -/
theorem isUndefined_of_read?_iff
    {text : List Char}
    {x : Float}
    (read : read? text = some x) :
    IsUndefined x ↔ SpellsNan text := by
  rw [← read?_undefined_iff, read]
  simp

end Decimal

end BlackHoleScene
