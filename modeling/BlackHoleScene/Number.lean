import BlackHoleScene.Scalar

/-!
# Numbers from the host

A host hands in truth values, integers of any size and scalars, and all three
count as numbers. Integers stay exact among themselves and become scalars when
they meet one.
-/

namespace BlackHoleScene

/-- A number as the host supplies it. -/
inductive Number (α : Type)
  /-- A truth value, counting as one or zero. -/
  | truth (holds : Bool)
  /-- An exact integer. -/
  | whole (n : Int)
  | real (x : α)
  deriving DecidableEq

namespace Number

variable {α : Type} [Scalar α]

/-- Most digits that an integer is written with. -/
def digitLimit : Nat := 4300

/-- The number has a written form, which an integer beyond the limit has not. -/
def isWritable : Number α → Bool
  | .whole n => decide ((Nat.toDigits 10 n.natAbs).length ≤ digitLimit)
  | _ => true

/-- The integer a number stands for, unless it is a scalar. -/
def integer? : Number α → Option Int
  | .truth holds => some (if holds then 1 else 0)
  | .whole n => some n
  | .real _ => none

/-- The scalar nearest to a number; `none` for an integer beyond all scalars. -/
def toScalar? : Number α → Option α
  | .truth holds => some (if holds then 1.0 else 0.0)
  | .whole n => Scalar.ofInt? n
  | .real x => some x

/-- The product, exact for two integers; `none` when an integer that meets a
scalar is beyond all scalars. -/
def mul? (a b : Number α) : Option (Number α) :=
  match a.integer?, b.integer? with
  | some m, some n => some (.whole (m * n))
  | _, _ =>
      match a.toScalar?, b.toScalar? with
      | some x, some y => some (.real (x * y))
      | _, _ => none

/-- Order of two numbers by exact value; `none` when one is undefined. -/
def compare? (a b : Number α) : Option Ordering :=
  match a, b with
  | .real x, .real y =>
      if x < y then some .lt
      else if y < x then some .gt
      else if x ≤ y then some .eq
      else none
  | .real x, b => b.integer?.bind fun n => Scalar.compareInt? x n
  | a, .real y =>
      a.integer?.bind fun n => (Scalar.compareInt? y n).map Ordering.swap
  | a, b => a.integer?.bind fun m => b.integer?.map fun n => compare m n

/-- Equal in value, whatever the kinds of the two numbers. -/
def Same (a b : Number α) : Prop := a.compare? b = some .eq

instance (a b : Number α) : Decidable (a.Same b) := by
  unfold Same
  infer_instance

/-- Strictly less in value. -/
def Less (a b : Number α) : Prop := a.compare? b = some .lt

instance (a b : Number α) : Decidable (a.Less b) := by
  unfold Less
  infer_instance

/-- At most as great in value. -/
def AtMost (a b : Number α) : Prop := a.Less b ∨ a.Same b

instance (a b : Number α) : Decidable (a.AtMost b) := by
  unfold AtMost
  infer_instance

/-- The number is different from zero; an undefined one is. -/
def isNonzero (a : Number α) : Bool := !decide (a.Same (.whole 0))

end Number

end BlackHoleScene
