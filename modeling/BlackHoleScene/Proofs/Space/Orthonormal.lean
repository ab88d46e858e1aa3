import BlackHoleScene.Proofs.Real.Scalar
import BlackHoleScene.Space.Mat3
import Mathlib.LinearAlgebra.UnitaryGroup

/-!
# Lengths and orthonormal matrices

Over the real numbers, a matrix is orthonormal when its columns have length one
and stand at right angles. These matrices are the orthogonal group of dimension
three: `Mat3.orthonormal_iff`. So products of them and their transposes are
orthonormal again, and they keep scalar products and lengths.
-/

namespace BlackHoleScene

namespace Vec3

theorem norm_real (v : Vec3 ℝ) : v.norm = √(v.dot v) := rfl

theorem dot_comm (a b : Vec3 ℝ) : a.dot b = b.dot a := by
  simp only [dot]
  ring

theorem dot_self_nonneg (v : Vec3 ℝ) : 0 ≤ v.dot v := by
  have coordinates := add_nonneg (mul_self_nonneg v.x) (mul_self_nonneg v.y)
  exact add_nonneg coordinates (mul_self_nonneg v.z)

theorem norm_sq (v : Vec3 ℝ) : v.norm ^ 2 = v.dot v :=
  Real.sq_sqrt v.dot_self_nonneg

/-- The length is the number whose square is the scalar product with itself. -/
theorem norm_eq_of_dot_self
    {v : Vec3 ℝ}
    {length : ℝ}
    (nonneg : 0 ≤ length)
    (square : v.dot v = length ^ 2) :
    v.norm = length := by
  rw [norm_real, square, Real.sqrt_sq nonneg]

@[simp] theorem zero_real : (zero : Vec3 ℝ) = ⟨0, 0, 0⟩ := by
  simp [zero]

@[simp] theorem norm_zero : (zero : Vec3 ℝ).norm = 0 :=
  norm_eq_of_dot_self le_rfl (by norm_num)

theorem dot_self_scale (v : Vec3 ℝ) (factor : ℝ) :
    (v.scale factor).dot (v.scale factor) = factor ^ 2 * v.dot v := by
  simp only [scale, dot]
  ring

theorem dot_self_neg (v : Vec3 ℝ) : (-v).dot (-v) = v.dot v := by
  cases v
  simp

/-- The vector product stands at right angles to its left factor. -/
theorem dot_cross_left (a b : Vec3 ℝ) : a.dot (a.cross b) = 0 := by
  simp only [dot, cross]
  ring

/-- The vector product stands at right angles to its right factor. -/
theorem dot_cross_right (a b : Vec3 ℝ) : b.dot (a.cross b) = 0 := by
  simp only [dot, cross]
  ring

/-- The identity of Lagrange. -/
theorem cross_dot_self (a b : Vec3 ℝ) :
    (a.cross b).dot (a.cross b) = a.dot a * b.dot b - a.dot b ^ 2 := by
  simp only [dot, cross]
  ring

end Vec3

namespace Mat3

/-- The columns have length one and stand at right angles. -/
structure Orthonormal (m : Mat3 ℝ) : Prop where
  unitX : m.colX.dot m.colX = 1
  unitY : m.colY.dot m.colY = 1
  unitZ : m.colZ.dot m.colZ = 1
  rightXY : m.colX.dot m.colY = 0
  rightXZ : m.colX.dot m.colZ = 0
  rightYZ : m.colY.dot m.colZ = 0

/-- The matrix of the entries. -/
def toMatrix (m : Mat3 ℝ) : Matrix (Fin 3) (Fin 3) ℝ :=
  !![m.colX.x, m.colY.x, m.colZ.x;
    m.colX.y, m.colY.y, m.colZ.y;
    m.colX.z, m.colY.z, m.colZ.z]

/-- The product is the product of matrices. -/
theorem toMatrix_mul (m n : Mat3 ℝ) :
    (m.mul n).toMatrix = m.toMatrix * n.toMatrix := by
  ext i j
  rw [Matrix.mul_apply, Fin.sum_univ_three]
  fin_cases i <;> fin_cases j <;>
    simp [toMatrix, mul, apply, Vec3.scale, mul_comm]

/-- A matrix made of rows is the transpose of the one made of columns. -/
theorem toMatrix_ofRows (a b c : Vec3 ℝ) :
    (ofRows a b c).toMatrix = (toMatrix ⟨a, b, c⟩).transpose := by
  ext i j
  fin_cases i <;> fin_cases j <;> rfl

/-- The transpose times the matrix holds the scalar products of the columns. -/
theorem transpose_mul_toMatrix (m : Mat3 ℝ) :
    m.toMatrix.transpose * m.toMatrix =
      !![m.colX.dot m.colX, m.colX.dot m.colY, m.colX.dot m.colZ;
        m.colY.dot m.colX, m.colY.dot m.colY, m.colY.dot m.colZ;
        m.colZ.dot m.colX, m.colZ.dot m.colY, m.colZ.dot m.colZ] := by
  ext i j
  fin_cases i <;> fin_cases j <;>
    simp [toMatrix, Matrix.mul_apply, Fin.sum_univ_three, Vec3.dot]

/-- Orthonormal matrices are the orthogonal group. -/
theorem orthonormal_iff {m : Mat3 ℝ} :
    m.Orthonormal ↔ m.toMatrix ∈ Matrix.orthogonalGroup (Fin 3) ℝ := by
  rw [Matrix.mem_orthogonalGroup_iff', transpose_mul_toMatrix,
    Matrix.one_fin_three]
  constructor
  · intro orthonormal
    rw [m.colY.dot_comm m.colX, m.colZ.dot_comm m.colX, m.colZ.dot_comm m.colY,
      orthonormal.unitX, orthonormal.unitY, orthonormal.unitZ,
      orthonormal.rightXY, orthonormal.rightXZ, orthonormal.rightYZ]
  · intro equal
    have entries := fun i j => congrFun (congrFun equal i) j
    exact ⟨entries 0 0, entries 1 1, entries 2 2, entries 0 1, entries 0 2,
      entries 1 2⟩

/-- The product of orthonormal matrices is orthonormal. -/
theorem Orthonormal.mul
    {m n : Mat3 ℝ}
    (left : m.Orthonormal)
    (right : n.Orthonormal) :
    (m.mul n).Orthonormal := by
  rw [orthonormal_iff, toMatrix_mul]
  exact mul_mem (orthonormal_iff.1 left) (orthonormal_iff.1 right)

/-- A matrix with orthonormal rows is orthonormal. -/
theorem Orthonormal.ofRows
    {a b c : Vec3 ℝ}
    (orthonormal : Mat3.Orthonormal ⟨a, b, c⟩) :
    (Mat3.ofRows a b c).Orthonormal := by
  rw [orthonormal_iff, toMatrix_ofRows, Matrix.mem_orthogonalGroup_iff',
    Matrix.transpose_transpose, ← Matrix.mem_orthogonalGroup_iff]
  exact orthonormal_iff.1 orthonormal

/-- Images under an orthonormal matrix have the scalar product of what they are
images of. -/
theorem Orthonormal.dot_apply
    {m : Mat3 ℝ}
    (orthonormal : m.Orthonormal)
    (a b : Vec3 ℝ) :
    (m.apply a).dot (m.apply b) = a.dot b := by
  have expanded :
      (m.apply a).dot (m.apply b) =
        a.x * b.x * m.colX.dot m.colX + a.y * b.y * m.colY.dot m.colY +
          a.z * b.z * m.colZ.dot m.colZ +
            (a.x * b.y + a.y * b.x) * m.colX.dot m.colY +
          (a.x * b.z + a.z * b.x) * m.colX.dot m.colZ +
          (a.y * b.z + a.z * b.y) * m.colY.dot m.colZ := by
    simp only [apply, Vec3.scale, Vec3.mk_add_mk, Vec3.dot]
    ring
  rw [expanded, orthonormal.unitX, orthonormal.unitY, orthonormal.unitZ,
    orthonormal.rightXY, orthonormal.rightXZ, orthonormal.rightYZ, Vec3.dot]
  ring

/-- An orthonormal matrix keeps lengths. -/
theorem Orthonormal.norm_apply
    {m : Mat3 ℝ}
    (orthonormal : m.Orthonormal)
    (v : Vec3 ℝ) :
    (m.apply v).norm = v.norm := by
  rw [Vec3.norm_real, orthonormal.dot_apply, Vec3.norm_real]

theorem orthonormal_identity : (identity : Mat3 ℝ).Orthonormal := by
  constructor <;> simp [identity]

section Turn

variable {c s : ℝ} (circle : c ^ 2 + s ^ 2 = 1)
include circle

/-- A rotation about the x axis is orthonormal. -/
theorem orthonormal_turnX : (turnX c s).Orthonormal := by
  constructor <;> norm_num [turnX, Mat3.ofRows] <;> linarith

/-- A rotation about the y axis is orthonormal. -/
theorem orthonormal_turnY : (turnY c s).Orthonormal := by
  constructor <;> norm_num [turnY, Mat3.ofRows] <;> linarith

end Turn

/-- The rotation about the x axis by an angle in degrees. -/
noncomputable def tiltX (degrees : ℝ) : Mat3 ℝ :=
  turnX (Real.cos (Scalar.radians degrees)) (Real.sin (Scalar.radians degrees))

/-- The rotation about the y axis by an angle in degrees. -/
noncomputable def tiltY (degrees : ℝ) : Mat3 ℝ :=
  turnY (Real.cos (Scalar.radians degrees)) (Real.sin (Scalar.radians degrees))

theorem rotationX_eq (degrees : Number ℝ) :
    rotationX degrees = .ok (tiltX degrees.value) := by
  simp only [rotationX, cosSin, Arithmetic.scalar_eq, Arithmetic.cos_eq,
    Arithmetic.sin_eq, bind, Except.bind, pure, Except.pure, tiltX]

theorem rotationY_eq (degrees : Number ℝ) :
    rotationY degrees = .ok (tiltY degrees.value) := by
  simp only [rotationY, cosSin, Arithmetic.scalar_eq, Arithmetic.cos_eq,
    Arithmetic.sin_eq, bind, Except.bind, pure, Except.pure, tiltY]

theorem orthonormal_tiltX (degrees : ℝ) : (tiltX degrees).Orthonormal :=
  orthonormal_turnX (Real.cos_sq_add_sin_sq _)

theorem orthonormal_tiltY (degrees : ℝ) : (tiltY degrees).Orthonormal :=
  orthonormal_turnY (Real.cos_sq_add_sin_sq _)

end Mat3

end BlackHoleScene
