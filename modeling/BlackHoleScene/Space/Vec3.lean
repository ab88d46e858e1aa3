import BlackHoleScene.Scalar

/-!
# Vectors in space
-/

namespace BlackHoleScene

/-- A vector of three coordinates. -/
structure Vec3 (α : Type) where
  x : α
  y : α
  z : α
  deriving DecidableEq

namespace Vec3

variable {α : Type} [Scalar α]

instance : Add (Vec3 α) where
  add a b := ⟨a.x + b.x, a.y + b.y, a.z + b.z⟩

instance : Sub (Vec3 α) where
  sub a b := ⟨a.x - b.x, a.y - b.y, a.z - b.z⟩

instance : Neg (Vec3 α) where
  neg a := ⟨-a.x, -a.y, -a.z⟩

/-- The vector of zeros. -/
def zero : Vec3 α := ⟨0.0, 0.0, 0.0⟩

/-- Multiply every coordinate by a factor. -/
def scale (factor : α) (a : Vec3 α) : Vec3 α :=
  ⟨factor * a.x, factor * a.y, factor * a.z⟩

/-- Divide every coordinate by a divisor. -/
def shrink (a : Vec3 α) (divisor : α) : Vec3 α :=
  ⟨a.x / divisor, a.y / divisor, a.z / divisor⟩

/-- The scalar product. -/
def dot (a b : Vec3 α) : α := a.x * b.x + a.y * b.y + a.z * b.z

/-- The vector product. -/
def cross (a b : Vec3 α) : Vec3 α :=
  ⟨a.y * b.z - a.z * b.y, a.z * b.x - a.x * b.z, a.x * b.y - a.y * b.x⟩

/-- The length of a vector. -/
def norm (a : Vec3 α) : α := Scalar.sqrt (a.dot a)

/-- The coordinates in order. -/
def toList (a : Vec3 α) : List α := [a.x, a.y, a.z]

@[simp] theorem mk_add_mk (a b c d e f : α) :
    (⟨a, b, c⟩ + ⟨d, e, f⟩ : Vec3 α) = ⟨a + d, b + e, c + f⟩ := rfl

@[simp] theorem mk_sub_mk (a b c d e f : α) :
    (⟨a, b, c⟩ - ⟨d, e, f⟩ : Vec3 α) = ⟨a - d, b - e, c - f⟩ := rfl

@[simp] theorem neg_mk (a b c : α) :
    (-⟨a, b, c⟩ : Vec3 α) = ⟨-a, -b, -c⟩ := rfl

@[simp] theorem scale_mk (factor a b c : α) :
    (⟨a, b, c⟩ : Vec3 α).scale factor =
      ⟨factor * a, factor * b, factor * c⟩ := rfl

@[simp] theorem shrink_mk (a b c divisor : α) :
    (⟨a, b, c⟩ : Vec3 α).shrink divisor =
      ⟨a / divisor, b / divisor, c / divisor⟩ := rfl

@[simp] theorem dot_mk (a b c d e f : α) :
    (⟨a, b, c⟩ : Vec3 α).dot ⟨d, e, f⟩ = a * d + b * e + c * f := rfl

@[simp] theorem cross_mk (a b c d e f : α) :
    (⟨a, b, c⟩ : Vec3 α).cross ⟨d, e, f⟩ =
      ⟨b * f - c * e, c * d - a * f, a * e - b * d⟩ := rfl

end Vec3

end BlackHoleScene
