import BlackHoleScene.Proofs.Control.Valid

/-!
# Scalars with infinite and undefined ones

Where results can be infinite or undefined, some operations keep finite scalars
finite all the same: products with a factor between minus one and one, quotients
by a divisor above one, and sums with zero. All the others at least lead from
finite scalars to defined ones, and none leads back from scalars that are not
finite. `IeeeScalar` asks for what the motion of an observer relies on.
-/

namespace BlackHoleScene

open Scalar

namespace Scalar

variable {α : Type} [Scalar α]

/-- The scalar is between minus one and one. -/
def WithinOne (x : α) : Prop := -1.0 ≤ x ∧ x ≤ 1.0

end Scalar

/-- Which operations keep finite scalars finite, which give a defined one, and
that scalars which are not finite do not become so again. -/
class IeeeScalar (α : Type) [Scalar α] : Prop where
  finite_of_withinOne : ∀ {x : α}, WithinOne x → isFinite x = true
  withinOne_zero : WithinOne (0.0 : α)
  withinOne_one : WithinOne (1.0 : α)
  withinOne_neg : ∀ {x : α}, WithinOne x → WithinOne (-x)
  withinOne_of_below : ∀ {x : α}, 0.0 ≤ x → ¬1.0 ≤ x → WithinOne x
  withinOne_sin : ∀ {x : α}, isFinite x = true → WithinOne (sin x)
  withinOne_cos : ∀ {x : α}, isFinite x = true → WithinOne (cos x)
  finite_radian : isFinite (pi / 180.0 : α) = true
  finite_mul_of_left :
    ∀ {x y : α},
      WithinOne x → isFinite y = true → isFinite (x * y) = true
  finite_mul_of_right :
    ∀ {x y : α},
      isFinite x = true → WithinOne y → isFinite (x * y) = true
  finite_div :
    ∀ {x y : α},
      isFinite x = true → isFinite y = true → ¬y ≤ 1.0 →
        isFinite (x / y) = true
  mul_zero : ∀ {x : α}, isFinite x = true → Same (x * 0.0) 0.0
  zero_mul : ∀ {x : α}, isFinite x = true → Same (0.0 * x) 0.0
  finite_add_zero :
    ∀ {x y : α}, isFinite x = true → Same y 0.0 → isFinite (x + y) = true
  finite_zero_add :
    ∀ {x y : α}, Same x 0.0 → isFinite y = true → isFinite (x + y) = true
  defined_mul :
    ∀ {x y : α},
      isFinite x = true → isFinite y = true → ¬IsUndefined (x * y)
  defined_sub :
    ∀ {x y : α},
      isFinite x = true → isFinite y = true → ¬IsUndefined (x - y)
  defined_double : ∀ {x : α}, ¬IsUndefined x → ¬IsUndefined (2.0 * x)
  sqrt_nonneg : ∀ {x : α}, ¬IsUndefined x → ¬x < 0.0 → 0.0 ≤ sqrt x
  one_div_nonneg : ∀ {x : α}, 0.0 ≤ x → ¬Same x 0.0 → 0.0 ≤ 1.0 / x
  finite_of_mul :
    ∀ {x y : α},
      isFinite (x * y) = true → isFinite x = true ∧ isFinite y = true
  finite_of_add :
    ∀ {x y : α},
      isFinite (x + y) = true → isFinite x = true ∧ isFinite y = true
  finite_of_div : ∀ {x y : α}, isFinite (x / y) = true → isFinite x = true
  finite_of_sqrt : ∀ {x : α}, isFinite (sqrt x) = true → isFinite x = true

end BlackHoleScene
