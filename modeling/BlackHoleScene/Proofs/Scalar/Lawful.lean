import BlackHoleScene.Proofs.Control.Valid
import BlackHoleScene.Proofs.Real.Scalar

/-!
# Lawful scalars

What holds of a session does not depend on how its scalars are rounded, but some
of it depends on how finite scalars compare: two of them are in order one way or
the other, and those that are equal in value are one scalar, or two zeros.
`LawfulScalar` asks for this much. The real numbers are lawful, and so are the
machine doubles, with their undefined and infinite ones and their two zeros.
-/

namespace BlackHoleScene

open Scalar

/-- The finite scalars are in order, zero alone may be there twice, and zero and
one are what they are. -/
class LawfulScalar (α : Type) [Scalar α] : Prop where
  le_total :
    ∀ {x y : α},
      isFinite x = true → isFinite y = true → x ≤ y ∨ y ≤ x
  lt_iff_not_le :
    ∀ {x y : α},
      isFinite x = true → isFinite y = true → (x < y ↔ ¬y ≤ x)
  eq_or_zero_of_same :
    ∀ {x y : α},
      isFinite x = true → isFinite y = true → Same x y → x = y ∨
        Same x 0.0 ∧ Same y 0.0
  compareInt?_zero_iff :
    ∀ {x : α},
      isFinite x = true → (compareInt? x 0 = some .eq ↔ Same x 0.0)
  isFinite_zero : isFinite (0.0 : α) = true
  isFinite_one : isFinite (1.0 : α) = true
  zero_lt_one : (0.0 : α) < 1.0

instance instLawfulScalarReal : LawfulScalar ℝ where
  le_total := fun {x y} _ _ => LinearOrder.le_total x y
  lt_iff_not_le := fun _ _ => not_le.symm
  eq_or_zero_of_same := fun _ _ same => .inl (same_real_iff.1 same)
  compareInt?_zero_iff := by
    intro x _
    rw [same_real_iff, zero_real]
    change some (compare x ((0 : ℤ) : ℝ)) = some .eq ↔ x = 0
    rw [Option.some_inj, compare_eq_iff_eq, Int.cast_zero]
  isFinite_zero := rfl
  isFinite_one := rfl
  zero_lt_one := by norm_num

variable {α : Type} [Scalar α] [LawfulScalar α]

namespace Scalar

/-- A finite scalar is equal to itself in value. -/
theorem same_self {x : α} (finite : isFinite x = true) : Same x x := by
  have atMost : x ≤ x := (LawfulScalar.le_total finite finite).elim id id
  exact ⟨atMost, atMost⟩

/-- What is not below a finite scalar is at least as great. -/
theorem le_of_not_lt
    {x y : α}
    (finite : isFinite x = true)
    (other : isFinite y = true)
    (above : ¬x < y) :
    y ≤ x := by
  rw [LawfulScalar.lt_iff_not_le finite other] at above
  exact not_not.1 above

/-- What is not at least as great as a finite scalar is below it. -/
theorem lt_of_not_le
    {x y : α}
    (finite : isFinite x = true)
    (other : isFinite y = true)
    (above : ¬y ≤ x) :
    x < y :=
  (LawfulScalar.lt_iff_not_le finite other).2 above

/-- One is not zero. -/
theorem not_same_one_zero : ¬Same (1.0 : α) 0.0 := by
  rintro ⟨atMost, _⟩
  exact (LawfulScalar.lt_iff_not_le LawfulScalar.isFinite_zero
    LawfulScalar.isFinite_one).1
    LawfulScalar.zero_lt_one atMost

end Scalar

namespace Number

omit [LawfulScalar α] in
/-- An integer is equal to itself in value. -/
theorem same_self_of_integer?
    {number : Number α}
    {n : Int}
    (exact : number.integer? = some n) :
    number.Same number := by
  cases number <;> simp_all [Same, compare?, integer?]

/-- Two finite scalars are equal as numbers if the order sees them so. -/
theorem same_real_iff
    {x y : α}
    (finite : isFinite x = true)
    (other : isFinite y = true) :
    (real x).Same (real y) ↔ Scalar.Same x y := by
  have less := LawfulScalar.lt_iff_not_le finite other
  have greater := LawfulScalar.lt_iff_not_le other finite
  by_cases below : x ≤ y <;> by_cases above : y ≤ x
  all_goals
    simp [Number.Same, compare?, Scalar.Same, less, greater, below, above]

end Number

namespace Value

/-- Two finite scalars are equal as values if the order sees them so. -/
theorem same_real_iff
    {x y : α}
    (finite : isFinite x = true)
    (other : isFinite y = true) :
    (real x).same (real y) = true ↔ Same x y := by
  rw [same, decide_eq_true_iff]
  exact Number.same_real_iff finite other

/-- A finite scalar counts as true unless it is zero. -/
theorem isTruthy_real_iff
    {x : α}
    (finite : isFinite x = true) :
    (real x).isTruthy = true ↔ ¬Same x 0.0 := by
  have exact : (Number.real x).compare? (.whole 0) = compareInt? x 0 := rfl
  simp [isTruthy, Number.isNonzero, Number.Same, exact,
    LawfulScalar.compareInt?_zero_iff finite]

end Value

/-- A value that a control takes is equal to itself. -/
theorem Control.same_self_of_accept
    {control : Control}
    {value accepted : Value α}
    (taken : control.accept value = .ok accepted) :
    value.same value = true := by
  cases control with
  | quality =>
      cases value with
      | text name => simp [Value.same]
      | none => exact absurd taken refuse_ne_ok
      | number x => exact absurd taken refuse_ne_ok
      | list items => exact absurd taken refuse_ne_ok
  | flag which =>
      unfold accept at taken
      dsimp only at taken
      split at taken
      · exact decide_eq_true (Number.same_self_of_integer? rfl)
      · exact absurd taken refuse_ne_ok
  | quantity which =>
      obtain ⟨x, read, rfl⟩ := map_eq_ok_iff.1 taken
      cases value with
      | number held =>
          cases held with
          | truth holds => exact absurd read refuse_ne_ok
          | whole n => exact decide_eq_true (Number.same_self_of_integer? rfl)
          | real y =>
              obtain ⟨_, found, _⟩ := bind_eq_ok_iff.1 read
              cases eq_of_accept_real taken
              have finite := (Quantity.finite_within_of_accept read).1
              exact (Value.same_real_iff finite finite).2 (same_self finite)
      | none => exact absurd read refuse_ne_ok
      | text name => exact absurd read refuse_ne_ok
      | list items => exact absurd read refuse_ne_ok

end BlackHoleScene
