import BlackHoleScene.Fault.Basic

/-!
# Arithmetic that may fail

Operations on numbers and scalars that stop with a fault where there is no
result, instead of giving an undefined one.
-/

namespace BlackHoleScene
namespace Arithmetic

variable {α : Type} [Scalar α]

/-- Stop with a fault of arithmetic. -/
def fail {ρ : Type} (cause : ArithmeticFault) : Except (Fault α) ρ :=
  .error (.arithmetic cause)

/-- The scalar nearest to a number. -/
def scalar (x : Number α) : Except (Fault α) α :=
  match x.toScalar? with
  | some y => .ok y
  | none => fail .overflow

/-- The product of two numbers. -/
def mul (a b : Number α) : Except (Fault α) (Number α) :=
  match a.mul? b with
  | some product => .ok product
  | none => fail .overflow

/-- The quotient of two scalars, for a divisor other than zero. -/
def div (x y : α) : Except (Fault α) α :=
  if Scalar.Same y 0.0 then fail .divisionByZero else .ok (x / y)

/-- The root of a scalar that is not negative. -/
def sqrt (x : α) : Except (Fault α) α :=
  if x < 0.0 then fail .outsideDomain else .ok (Scalar.sqrt x)

/-- The sine of a scalar that is not infinite. -/
def sin (x : α) : Except (Fault α) α :=
  if Scalar.IsInfinite x then fail .outsideDomain else .ok (Scalar.sin x)

/-- The cosine of a scalar that is not infinite. -/
def cos (x : α) : Except (Fault α) α :=
  if Scalar.IsInfinite x then fail .outsideDomain else .ok (Scalar.cos x)

/-- The number that a control value stands for. -/
def number (value : Value α) : Except (Fault α) (Number α) :=
  match value.number? with
  | some x => .ok x
  | none => .error .unsuitable

/-- The most items that a text or a list can have. -/
def itemLimit : Int := Int.ofNat (Nat.pow 2 63 - 1)

/-- Check that there can be so many copies of a number of items. -/
def checkCopies (count : Number α) (items : Nat) : Except (Fault α) Unit :=
  match count.integer? with
  | none => .error .unsuitable
  | some n =>
      if itemLimit < n ∨ itemLimit < n * items then fail .overflow else .ok ()

/-- The product of a number and a control value. A text or a list is copied a
whole number of times; the copies are no number, so they are not made, and the
result is absent. -/
def times (factor : Number α) : Value α → Except (Fault α) (Value α)
  | .none => .error .unsuitable
  | .number x => (mul factor x).map .number
  | .text characters =>
      (checkCopies factor characters.length).map fun () => .none
  | .list _ => (checkCopies factor 0).map fun () => .none

/-- The scalar nearest to the number that a control value stands for; a text
stands for the number that it denotes as a numeral. -/
def scalarOf : Value α → Except (Fault α) α
  | .number x => scalar x
  | .text characters =>
      match Scalar.ofNumeral? characters.toList with
      | some x => .ok x
      | none => fail .notNumeral
  | _ => .error .unsuitable

end Arithmetic
end BlackHoleScene
