import BlackHoleScene.Decimal.Numeral

/-!
# Scalars

Everything numeric in this library is written for a type of scalars: the
machine doubles when it runs, the real numbers when its geometry is studied.
`Scalar` lists what is asked of such a type. The instance for `Float` is the one
that runs.
-/

namespace BlackHoleScene

/-- Arithmetic, order and elementary functions, together with the exchange of
values with the exact integers and with written numerals. -/
class Scalar (α : Type) extends
    Add α, Sub α, Mul α, Div α, Neg α, LT α, LE α, OfScientific α where
  decidableLT : DecidableLT α
  decidableLE : DecidableLE α
  sqrt : α → α
  sin : α → α
  cos : α → α
  /-- Half the circumference of the unit circle. -/
  pi : α
  /-- Neither infinite nor undefined. -/
  isFinite : α → Bool
  /-- The scalar nearest to an integer, if one is in range. -/
  ofInt? : Int → Option α
  /-- Exact order of a scalar relative to an integer; `none` for an undefined
  scalar. -/
  compareInt? : α → Int → Option Ordering
  /-- The scalar that a written numeral denotes. -/
  ofNumeral? : List Char → Option α

namespace Scalar

variable {α : Type} [Scalar α]

instance (priority := low) instDecidableLT : DecidableLT α := decidableLT

instance (priority := low) instDecidableLE : DecidableLE α := decidableLE

/-- An undefined result compares to nothing, itself included. -/
def IsUndefined (x : α) : Prop := ¬x ≤ x

instance (x : α) : Decidable (IsUndefined x) := by
  unfold IsUndefined
  infer_instance

/-- Neither finite nor undefined. -/
def IsInfinite (x : α) : Prop := ¬isFinite x ∧ ¬IsUndefined x

instance (x : α) : Decidable (IsInfinite x) := by
  unfold IsInfinite
  infer_instance

/-- Equality of values as the order sees it: the two zeros are equal, and an
undefined scalar equals nothing. -/
def Same (x y : α) : Prop := x ≤ y ∧ y ≤ x

instance (x y : α) : Decidable (Same x y) := by
  unfold Same
  infer_instance

/-- The magnitude of a scalar. -/
def abs (x : α) : α := if x < 0.0 then -x else x

/-- An angle in degrees, in radians. -/
def radians (degrees : α) : α := degrees * (pi / 180.0)

end Scalar

instance : Scalar Float where
  decidableLT := fun x y => Float.decLt x y
  decidableLE := fun x y => Float.decLe x y
  sqrt := Float.sqrt
  sin := Float.sin
  cos := Float.cos
  pi := 3.141592653589793
  isFinite := Float.isFinite
  ofInt? := Decimal.floatOfInt?
  compareInt? := Decimal.compareInt?
  ofNumeral? := Decimal.read?

end BlackHoleScene
