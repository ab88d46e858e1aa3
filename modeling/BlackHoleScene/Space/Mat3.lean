import BlackHoleScene.Arithmetic
import BlackHoleScene.Space.Vec3

/-!
# Matrices of three columns

A matrix is given by its columns, the images of the axes. A camera basis is such
a matrix: its columns are the axes of the camera in the coordinates of the
world.
-/

namespace BlackHoleScene

/-- A matrix of three rows and three columns, by columns. -/
structure Mat3 (α : Type) where
  colX : Vec3 α
  colY : Vec3 α
  colZ : Vec3 α
  deriving DecidableEq

namespace Mat3

variable {α : Type}

/-- The matrix with the given rows. -/
def ofRows (first second third : Vec3 α) : Mat3 α where
  colX := ⟨first.x, second.x, third.x⟩
  colY := ⟨first.y, second.y, third.y⟩
  colZ := ⟨first.z, second.z, third.z⟩

/-- The columns of a matrix. -/
def columns (m : Mat3 α) : List (Vec3 α) := [m.colX, m.colY, m.colZ]

/-- The rows of a matrix. -/
def rows (m : Mat3 α) : List (Vec3 α) :=
  [⟨m.colX.x, m.colY.x, m.colZ.x⟩, ⟨m.colX.y, m.colY.y, m.colZ.y⟩,
    ⟨m.colX.z, m.colY.z, m.colZ.z⟩]

variable [Scalar α]

/-- The matrix that leaves every vector as it is. -/
def identity : Mat3 α :=
  ⟨⟨1.0, 0.0, 0.0⟩, ⟨0.0, 1.0, 0.0⟩, ⟨0.0, 0.0, 1.0⟩⟩

/-- The image of a vector: its coordinates weigh the columns. -/
def apply (m : Mat3 α) (v : Vec3 α) : Vec3 α :=
  m.colX.scale v.x + m.colY.scale v.y + m.colZ.scale v.z

/-- The product: first `n`, then `m`. -/
def mul (m n : Mat3 α) : Mat3 α :=
  ⟨m.apply n.colX, m.apply n.colY, m.apply n.colZ⟩

/-- The rotation about the x axis with the given cosine and sine. -/
def turnX (c s : α) : Mat3 α :=
  ofRows ⟨1.0, 0.0, 0.0⟩ ⟨0.0, c, -s⟩ ⟨0.0, s, c⟩

/-- The rotation about the y axis with the given cosine and sine. -/
def turnY (c s : α) : Mat3 α :=
  ofRows ⟨c, 0.0, s⟩ ⟨0.0, 1.0, 0.0⟩ ⟨-s, 0.0, c⟩

/-- Cosine and sine of an angle in degrees. -/
def cosSin (degrees : Number α) : Except (Fault α) (α × α) := do
  let angle := Scalar.radians (← Arithmetic.scalar degrees)
  return (← Arithmetic.cos angle, ← Arithmetic.sin angle)

/-- The rotation about the x axis by an angle in degrees. -/
def rotationX (degrees : Number α) : Except (Fault α) (Mat3 α) := do
  let (c, s) ← cosSin degrees
  return turnX c s

/-- The rotation about the y axis by an angle in degrees. -/
def rotationY (degrees : Number α) : Except (Fault α) (Mat3 α) := do
  let (c, s) ← cosSin degrees
  return turnY c s

end Mat3

end BlackHoleScene
