import BlackHoleScene.Decimal.Binary64
import Mathlib.Tactic.Ring
import Mathlib.Tactic.SplitIfs

/-!
# Integers as machine doubles

An integer becomes the double nearest to it, with ties to even. The largest
double is 2 ^ 970 short of the point from which integers are nearer to the next
power of two, 2 ^ 1024, than to any double. So the integers that become no
double are those of at least this magnitude: `Decimal.floatOfInt?_eq_none_iff`.
-/

namespace BlackHoleScene
namespace Decimal

section RoundDiv

variable {numerator denominator bound : Nat} (positive : 0 < denominator)
include positive

/-- A quotient that is not below a natural is not rounded below it. -/
theorem le_roundDiv (atLeast : bound * denominator ≤ numerator) :
    bound ≤ roundDiv numerator denominator := by
  have quotient : bound ≤ numerator / denominator :=
    (Nat.le_div_iff_mul_le positive).2 atLeast
  unfold roundDiv
  dsimp only
  split_ifs <;> omega

/-- A quotient below a natural is not rounded beyond it. -/
theorem roundDiv_le (below : numerator < bound * denominator) :
    roundDiv numerator denominator ≤ bound := by
  have quotient : numerator / denominator < bound :=
    (Nat.div_lt_iff_lt_mul positive).2 below
  unfold roundDiv
  dsimp only
  split_ifs <;> omega

/-- What is rounded to less than an even natural is more than half a unit below
it. -/
theorem roundDiv_lt_iff_of_even (even : bound % 2 = 0) :
    roundDiv numerator denominator < bound ↔
      2 * numerator + denominator < 2 * (bound * denominator) := by
  have split := Nat.div_add_mod' numerator denominator
  have rest := Nat.mod_lt numerator positive
  unfold roundDiv
  dsimp only
  generalize numerator / denominator = quotient at *
  generalize numerator % denominator = remainder at *
  rcases Nat.lt_trichotomy (quotient + 1) bound with less | rfl | more
  · have apart : (quotient + 2) * denominator ≤ bound * denominator :=
      Nat.mul_le_mul_right denominator less
    rw [Nat.add_mul] at apart
    refine iff_of_true ?_ (by omega)
    split_ifs <;> omega
  · rw [Nat.add_mul]
    split_ifs <;> omega
  · have apart : bound * denominator ≤ quotient * denominator :=
      Nat.mul_le_mul_right denominator (by omega)
    refine iff_of_false ?_ (by omega)
    split_ifs <;> omega

end RoundDiv

namespace Binary64

/-- A natural with its leading bit at an index is divided by a power of two such
that 53 bits are left, and rounded. -/
theorem exists_nearestBits_one
    {n index : Nat}
    (nonzero : n ≠ 0)
    (leading : n.log2 = index) :
    ∃ numerator denominator, 0 < denominator ∧
      numerator * 2 ^ index = n * (2 ^ 52 * denominator) ∧
      nearestBits n 1 =
        min infinityBits
          ((index + 1022) * 2 ^ 52 + roundDiv numerator denominator) := by
  have least : 2 ^ index ≤ n := leading ▸ Nat.log2_self_le nonzero
  have one : ((Nat.log2 1 : Nat) : Int) = 0 := rfl
  have most : max ((index : Int) - 52) (-1074) = index - 52 := by omega
  have field : ((index : Int) - 52 + 1074).toNat = index + 1022 := by omega
  by_cases short : index < 52
  · have size : ((index : Int) - 52).natAbs = 52 - index := by omega
    have whole : 2 ^ 52 = 2 ^ index * 2 ^ (52 - index) := by
      rw [← Nat.pow_add, Nat.add_sub_cancel' short.le]
    have wide : ¬n * 2 ^ (52 - index) < 2 ^ 52 := by
      rw [whole]
      exact (Nat.mul_le_mul_right _ least).not_gt
    refine ⟨n * 2 ^ (52 - index), 1, Nat.one_pos, ?_, ?_⟩
    · rw [Nat.mul_one, whole]
      ring
    · simp only [nearestBits, if_neg nonzero, leading, one, Int.sub_zero,
        if_pos (show (index : Int) - 52 < 0 by omega), size, Nat.pow_eq,
        Nat.div_one, if_neg wide, most, field]
  · have size : ((index : Int) - 52).natAbs = index - 52 := by omega
    have whole : 2 ^ index = 2 ^ 52 * 2 ^ (index - 52) := by
      rw [← Nat.pow_add, Nat.add_sub_cancel' (by omega)]
    have wide : ¬n / 2 ^ (index - 52) < 2 ^ 52 := by
      rw [Nat.div_lt_iff_lt_mul (Nat.two_pow_pos _), ← whole]
      exact least.not_gt
    refine ⟨n, 2 ^ (index - 52), Nat.two_pow_pos _, by rw [whole], ?_⟩
    simp only [nearestBits, if_neg nonzero, leading, one, Int.sub_zero,
      if_neg (show ¬(index : Int) - 52 < 0 by omega), size, Nat.pow_eq,
      Nat.one_mul, if_neg wide, most, field]

section Leading

variable
  {n index numerator denominator : Nat}
  (positive : 0 < denominator)
  (ratio : numerator * 2 ^ index = n * (2 ^ 52 * denominator))
include positive ratio

/-- What is rounded are 53 bits. -/
theorem le_roundDiv_of_leading (least : 2 ^ index ≤ n) :
    2 ^ 52 ≤ roundDiv numerator denominator := by
  apply le_roundDiv positive
  apply Nat.le_of_mul_le_mul_right _ (Nat.two_pow_pos index)
  rw [ratio, Nat.mul_comm n]
  exact Nat.mul_le_mul_left _ least

/-- The 53 bits are rounded at most to the next power of two. -/
theorem roundDiv_le_of_leading (below : n < 2 ^ (index + 1)) :
    roundDiv numerator denominator ≤ 2 ^ 53 := by
  apply roundDiv_le positive
  apply Nat.lt_of_mul_lt_mul_right (a := 2 ^ index)
  calc numerator * 2 ^ index = n * (2 ^ 52 * denominator) := ratio
    _ < 2 ^ (index + 1) * (2 ^ 52 * denominator) :=
        Nat.mul_lt_mul_of_pos_right below
          (Nat.mul_pos (Nat.two_pow_pos 52) positive)
    _ = 2 ^ 53 * denominator * 2 ^ index := by ring

/-- The 53 bits are rounded to the next power of two from half a unit below it
on. -/
theorem roundDiv_lt_iff_of_leading
    {unit : Nat}
    (unitPositive : 0 < unit)
    (leading : 2 ^ index = 2 ^ 53 * unit) :
    roundDiv numerator denominator < 2 ^ 53 ↔ n + unit < 2 ^ 54 * unit := by
  rw [leading] at ratio
  have halved : 2 * numerator * unit = n * denominator := by
    apply Nat.eq_of_mul_eq_mul_left (Nat.two_pow_pos 52)
    calc 2 ^ 52 * (2 * numerator * unit)
      _ = numerator * (2 ^ 53 * unit) := by ring
      _ = 2 ^ 52 * (n * denominator) := by rw [ratio]; ring
  calc roundDiv numerator denominator < 2 ^ 53
      ↔ 2 * numerator + denominator < 2 * (2 ^ 53 * denominator) :=
        roundDiv_lt_iff_of_even positive rfl
    _ ↔
        (2 * numerator + denominator) * unit <
          2 * (2 ^ 53 * denominator) * unit :=
        (Nat.mul_lt_mul_right unitPositive).symm
    _ ↔ (n + unit) * denominator < 2 ^ 54 * unit * denominator := by
        rw [Nat.add_mul, halved]
        ring_nf
    _ ↔ n + unit < 2 ^ 54 * unit := Nat.mul_lt_mul_right positive

end Leading

/-- The naturals with a nearest double. -/
theorem nearestBits_one_lt_infinityBits_iff (n : Nat) :
    nearestBits n 1 < infinityBits ↔ n + 2 ^ 970 < 2 ^ 1024 := by
  by_cases zero : n = 0
  · subst zero
    refine iff_of_true (by decide) ?_
    rw [Nat.zero_add, Nat.pow_lt_pow_iff_right Nat.one_lt_two]
    decide
  generalize leading : n.log2 = index
  obtain ⟨numerator, denominator, positive, ratio, nearest⟩ :=
    exists_nearestBits_one zero leading
  have least : 2 ^ index ≤ n := leading ▸ Nat.log2_self_le zero
  have below : n < 2 ^ (index + 1) := leading ▸ Nat.lt_log2_self
  have rounded := le_roundDiv_of_leading positive ratio least
  have bounded := roundDiv_le_of_leading positive ratio below
  have scale : 2 ^ 1024 = 2 ^ 54 * 2 ^ 970 := by
    simp only [← pow_add, Nat.reduceAdd]
  rw [nearest, infinityBits, Nat.pow_eq, min_lt_iff, or_iff_right (lt_irrefl _)]
  rcases Nat.lt_trichotomy index 1023 with less | rfl | more
  · have atMost : index + 1 ≤ 53 + 970 := by omega
    have small : n < 2 ^ 53 * 2 ^ 970 := by
      rw [← pow_add]
      exact below.trans_le (pow_le_pow_right₀ one_le_two atMost)
    exact iff_of_true (by omega) (by omega)
  · have power : 2 ^ 1023 = 2 ^ 53 * 2 ^ 970 := by
      simp only [← pow_add, Nat.reduceAdd]
    have unitPositive : 0 < 2 ^ 970 := pow_pos two_pos 970
    rw [scale, ← roundDiv_lt_iff_of_leading positive ratio unitPositive power]
    omega
  · have atLeast : 54 + 970 ≤ index := by omega
    have great : 2 ^ 54 * 2 ^ 970 ≤ n := by
      rw [← pow_add]
      exact (pow_le_pow_right₀ one_le_two atLeast).trans least
    exact iff_of_false (by omega) (by omega)

end Binary64

/-- The integers that become no double. -/
theorem floatOfInt?_eq_none_iff (n : Int) :
    floatOfInt? n = none ↔ 2 ^ 1024 ≤ n.natAbs + 2 ^ 970 := by
  rw [floatOfInt?, ← Nat.not_lt,
    ← Binary64.nearestBits_one_lt_infinityBits_iff]
  split_ifs with inRange <;> simp [inRange]

end Decimal
end BlackHoleScene
