import BlackHoleScene.Arithmetic
import Mathlib.Analysis.SpecialFunctions.Trigonometric.Basic

/-!
# The real numbers as scalars

Over the real numbers every scalar is finite and every integer is a scalar, so
each number from a host has a value, and numbers compare as their values do. The
operations that may fail then fail only where mathematics has no result: at a
division by zero and at the root of a negative number.
-/

namespace BlackHoleScene

/-- Quotients of reals keep their meaning once the reals are scalars. -/
noncomputable instance instDivReal : Div ℝ := DivInvMonoid.toDiv

/-- So do decimals. -/
noncomputable instance instOfScientificReal : OfScientific ℝ :=
  NNRatCast.toOfScientific

/-- The reals as scalars. Texts are not read as numerals; no control takes one.
-/
noncomputable instance instScalarReal : Scalar ℝ where
  decidableLT := inferInstance
  decidableLE := inferInstance
  sqrt := Real.sqrt
  sin := Real.sin
  cos := Real.cos
  pi := Real.pi
  isFinite := fun _ => true
  ofInt? := fun n => some n
  compareInt? := fun x n => some (compare x n)
  ofNumeral? := fun _ => none

namespace Scalar

@[simp] theorem zero_real : (0.0 : ℝ) = 0 := by norm_num

@[simp] theorem one_real : (1.0 : ℝ) = 1 := by norm_num

@[simp] theorem two_real : (2.0 : ℝ) = 2 := by norm_num

theorem oneAndHalf_real : (1.5 : ℝ) = 3 / 2 := by norm_num

@[simp] theorem isFinite_real (x : ℝ) : isFinite x = true := rfl

@[simp] theorem not_isInfinite_real (x : ℝ) : ¬IsInfinite x := by
  simp [IsInfinite]

theorem same_real_iff {x y : ℝ} : Same x y ↔ x = y :=
  ⟨fun same => le_antisymm same.1 same.2,
    fun equal => ⟨equal.le, equal.ge⟩⟩

end Scalar

namespace Number

/-- The real number that a number stands for. -/
noncomputable def value : Number ℝ → ℝ
  | .truth holds => if holds then 1 else 0
  | .whole n => n
  | .real x => x

@[simp] theorem value_real (x : ℝ) : (Number.real x).value = x := rfl

/-- Every number has its value as scalar. -/
theorem toScalar?_eq (number : Number ℝ) :
    number.toScalar? = some number.value := by
  cases number with
  | truth holds => cases holds <;> simp [toScalar?, value]
  | whole n => rfl
  | real x => rfl

/-- An integer among the numbers has itself as value. -/
theorem value_of_integer?
    {number : Number ℝ}
    {n : ℤ}
    (exact : number.integer? = some n) :
    number.value = n := by
  cases number with
  | truth holds =>
      cases exact
      cases holds <;> norm_num [value]
  | whole m =>
      cases exact
      rfl
  | real x => cases exact

/-- Integers compare as the reals that they are. -/
theorem compare_intCast (m n : ℤ) : compare (m : ℝ) n = compare m n := by
  rw [← cmp_eq_compare, ← cmp_eq_compare]
  exact Int.cast_strictMono.cmp_map_eq m n

/-- Two scalars are compared by the order of the reals. -/
theorem compare?_real (x y : ℝ) :
    (Number.real x).compare? (.real y) = some (compare x y) := by
  simp only [compare?]
  rcases lt_trichotomy x y with less | rfl | greater
  · rw [if_pos less, compare_lt_iff_lt.2 less]
  · rw [if_neg (lt_irrefl x), if_neg (lt_irrefl x), if_pos le_rfl,
      compare_eq_iff_eq.2 rfl]
  · rw [if_neg greater.not_gt, if_pos greater, compare_gt_iff_gt.2 greater]

/-- A number without an integer is a scalar. -/
theorem eq_real_of_integer?
    {number : Number ℝ}
    (inexact : number.integer? = none) :
    number = .real number.value := by
  cases number with
  | truth holds => cases inexact
  | whole n => cases inexact
  | real x => rfl

/-- A scalar is compared to an integer by its exact order. -/
theorem compare?_real_of_integer?
    {number : Number ℝ}
    {n : ℤ}
    (exact : number.integer? = some n)
    (x : ℝ) :
    (Number.real x).compare? number = some (compare x n) ∧
      number.compare? (.real x) = some (compare x n).swap := by
  cases number with
  | real y => cases exact
  | truth holds =>
      cases exact
      exact ⟨rfl, rfl⟩
  | whole m =>
      cases exact
      exact ⟨rfl, rfl⟩

/-- Two integers are compared exactly. -/
theorem compare?_of_integer?
    {a b : Number ℝ}
    {m n : ℤ}
    (left : a.integer? = some m)
    (right : b.integer? = some n) :
    a.compare? b = some (compare m n) := by
  cases a <;> cases b <;> simp_all [compare?, integer?]

/-- Numbers compare as their values do. -/
theorem compare?_eq (a b : Number ℝ) :
    a.compare? b = some (compare a.value b.value) := by
  cases left : a.integer? with
  | none =>
      rw [eq_real_of_integer? left, value_real]
      cases right : b.integer? with
      | none => rw [eq_real_of_integer? right, value_real, compare?_real]
      | some n =>
          rw [(compare?_real_of_integer? right _).1, value_of_integer? right]
  | some m =>
      rw [value_of_integer? left]
      cases right : b.integer? with
      | none =>
          rw [eq_real_of_integer? right, value_real,
            (compare?_real_of_integer? left _).2, ← Std.OrientedOrd.eq_swap]
      | some n =>
          rw [compare?_of_integer? left right, value_of_integer? right,
            compare_intCast]

theorem less_iff {a b : Number ℝ} : a.Less b ↔ a.value < b.value := by
  rw [Less, compare?_eq, Option.some_inj, compare_lt_iff_lt]

theorem same_iff {a b : Number ℝ} : a.Same b ↔ a.value = b.value := by
  rw [Same, compare?_eq, Option.some_inj, compare_eq_iff_eq]

theorem atMost_iff {a b : Number ℝ} : a.AtMost b ↔ a.value ≤ b.value := by
  rw [AtMost, less_iff, same_iff, le_iff_lt_or_eq]

end Number

namespace Arithmetic

/-- The scalar of a number is its value. -/
theorem scalar_eq (number : Number ℝ) :
    (scalar number : Except (Fault ℝ) ℝ) = .ok number.value := by
  rw [scalar, Number.toScalar?_eq]

/-- Two scalars have a product. -/
theorem mul_real (x y : ℝ) :
    (mul (.real x) (.real y) : Except (Fault ℝ) (Number ℝ)) =
      .ok (.real (x * y)) := rfl

/-- Any two numbers have a product, whose value is the product of theirs. -/
theorem exists_mul (a b : Number ℝ) :
    ∃ product, (mul a b : Except (Fault ℝ) (Number ℝ)) = .ok product ∧
      product.value = a.value * b.value := by
  cases left : a.integer? with
  | none =>
      refine ⟨.real (a.value * b.value), ?_, rfl⟩
      simp only [mul, Number.mul?, left, Number.toScalar?_eq]
  | some m =>
      cases right : b.integer? with
      | none =>
          refine ⟨.real (a.value * b.value), ?_, rfl⟩
          simp only [mul, Number.mul?, left, right, Number.toScalar?_eq]
      | some n =>
          refine ⟨.whole (m * n), ?_, ?_⟩
          · simp only [mul, Number.mul?, left, right]
          · rw [Number.value_of_integer? left, Number.value_of_integer? right]
            exact Int.cast_mul m n

/-- There is a quotient unless the divisor is zero. -/
theorem div_eq
    {x y : ℝ}
    (nonzero : y ≠ 0) :
    (div x y : Except (Fault ℝ) ℝ) = .ok (x / y) := by
  have different : ¬Scalar.Same y 0.0 := by
    rwa [Scalar.same_real_iff, Scalar.zero_real]
  rw [div, if_neg different]

/-- There is a root unless the scalar is negative. -/
theorem sqrt_eq
    {x : ℝ}
    (nonneg : 0 ≤ x) :
    (sqrt x : Except (Fault ℝ) ℝ) = .ok (Real.sqrt x) := by
  have inside : ¬x < 0.0 := by
    rw [Scalar.zero_real]
    exact nonneg.not_gt
  rw [sqrt, if_neg inside]
  rfl

@[simp] theorem sin_eq (x : ℝ) :
    (sin x : Except (Fault ℝ) ℝ) = .ok (Real.sin x) := by
  rw [sin, if_neg (Scalar.not_isInfinite_real x)]
  rfl

@[simp] theorem cos_eq (x : ℝ) :
    (cos x : Except (Fault ℝ) ℝ) = .ok (Real.cos x) := by
  rw [cos, if_neg (Scalar.not_isInfinite_real x)]
  rfl

end Arithmetic

end BlackHoleScene
