import BlackHoleScene.Number

/-!
# Control values

What an input handler may hand in for a control is not known in advance, so a
control value is one of a few shapes, and the control decides which it accepts.
-/

namespace BlackHoleScene

/-- A value as an input handler supplies it. -/
inductive Value (α : Type)
  | none
  | number (x : Number α)
  | text (characters : String)
  | list (items : List (Value α))

namespace Value

variable {α : Type} [Scalar α]

mutual

/-- The value has a written form: every integer in it is within the limit. -/
def isWritable : Value α → Bool
  | .none => true
  | .number x => x.isWritable
  | .text _ => true
  | .list items => areWritable items

/-- All values of a list have a written form. -/
def areWritable : List (Value α) → Bool
  | [] => true
  | v :: items => isWritable v && areWritable items

end

/-- A truth value. -/
abbrev truth (holds : Bool) : Value α := .number (.truth holds)

/-- A scalar value. -/
abbrev real (x : α) : Value α := .number (.real x)

/-- The value counts as true: it is neither absent, nor zero, nor empty. -/
def isTruthy : Value α → Bool
  | .none => false
  | .number x => x.isNonzero
  | .text characters => !characters.isEmpty
  | .list items => !items.isEmpty

/-- The number that a value is, if it is one. -/
def number? : Value α → Option (Number α)
  | .number x => some x
  | _ => Option.none

mutual

/-- Equality of values: numbers by exact value, whatever their kinds. -/
def same : Value α → Value α → Bool
  | .none, .none => true
  | .number x, .number y => decide (x.Same y)
  | .text s, .text t => s == t
  | .list items, .list others => sameItems items others
  | _, _ => false

/-- Equality of lists of values, item by item. -/
def sameItems : List (Value α) → List (Value α) → Bool
  | [], [] => true
  | v :: items, w :: others => same v w && sameItems items others
  | _, _ => false

end

end Value

end BlackHoleScene
