import BlackHoleScene.Proofs.Space.Orthonormal

/-!
# Rotations of space

A rotation is an orthonormal matrix of determinant one. Like every orthonormal
matrix it keeps lengths; unlike a reflection it also takes the vector product of
two vectors to the vector product of their images: `Mat3.Rotation.cross_apply`.
The tilts about the axes are rotations.
-/

namespace BlackHoleScene

namespace Vec3

/-- Two vectors of length one are the same if their scalar product is one. -/
theorem eq_of_dot_eq_one
    {a b : Vec3 ℝ}
    (left : a.dot a = 1)
    (right : b.dot b = 1)
    (together : a.dot b = 1) :
    a = b := by
  have apart : (a.x - b.x) ^ 2 + (a.y - b.y) ^ 2 + (a.z - b.z) ^ 2 = 0 := by
    simp only [dot] at left right together
    linear_combination left + right - 2 * together
  have x : (a.x - b.x) ^ 2 = 0 := by
    nlinarith [sq_nonneg (a.y - b.y), sq_nonneg (a.z - b.z)]
  have y : (a.y - b.y) ^ 2 = 0 := by
    nlinarith [sq_nonneg (a.x - b.x), sq_nonneg (a.z - b.z)]
  have z : (a.z - b.z) ^ 2 = 0 := by
    nlinarith [sq_nonneg (a.x - b.x), sq_nonneg (a.y - b.y)]
  cases a
  cases b
  simp only [mk.injEq]
  exact ⟨sub_eq_zero.1 (pow_eq_zero_iff two_ne_zero |>.1 x),
    sub_eq_zero.1 (pow_eq_zero_iff two_ne_zero |>.1 y),
    sub_eq_zero.1 (pow_eq_zero_iff two_ne_zero |>.1 z)⟩

/-- The volume that three vectors span does not depend on which of them comes
first. -/
theorem dot_cross_rotate (a b c : Vec3 ℝ) :
    a.dot (b.cross c) = b.dot (c.cross a) := by
  simp only [dot, cross]
  ring

end Vec3

namespace Mat3

/-- The determinant is the volume that the columns span. -/
theorem det_toMatrix (m : Mat3 ℝ) :
    m.toMatrix.det = m.colX.dot (m.colY.cross m.colZ) := by
  rw [Matrix.det_fin_three]
  simp only [toMatrix, Matrix.of_apply, Matrix.cons_val', Matrix.cons_val_zero,
    Matrix.cons_val_fin_one, Matrix.cons_val_one, Matrix.cons_val, Vec3.dot,
    Vec3.cross]
  ring

section Linear

variable (m : Mat3 ℝ)

theorem apply_sub (a b : Vec3 ℝ) :
    m.apply (a - b) = m.apply a - m.apply b := by
  cases a
  cases b
  simp only [apply, Vec3.scale, Vec3.mk_sub_mk, Vec3.mk_add_mk, Vec3.mk.injEq]
  refine ⟨?_, ?_, ?_⟩ <;> ring

theorem apply_scale (factor : ℝ) (a : Vec3 ℝ) :
    m.apply (a.scale factor) = (m.apply a).scale factor := by
  simp only [apply, Vec3.scale, Vec3.mk_add_mk, Vec3.mk.injEq]
  refine ⟨?_, ?_, ?_⟩ <;> ring

theorem apply_shrink (divisor : ℝ) (a : Vec3 ℝ) :
    m.apply (a.shrink divisor) = (m.apply a).shrink divisor := by
  simp only [apply, Vec3.scale, Vec3.shrink, Vec3.mk_add_mk, Vec3.mk.injEq]
  refine ⟨?_, ?_, ?_⟩ <;> ring

/-- The product of matrices does to a vector what they do one after the other.
-/
theorem apply_apply
    (n : Mat3 ℝ)
    (a : Vec3 ℝ) :
    m.apply (n.apply a) = (m.mul n).apply a := by
  simp only [mul, apply, Vec3.scale, Vec3.mk_add_mk, Vec3.mk.injEq]
  refine ⟨?_, ?_, ?_⟩ <;> ring

theorem mul_assoc (n k : Mat3 ℝ) : (m.mul n).mul k = m.mul (n.mul k) := by
  simp only [Mat3.mul, mk.injEq]
  have column (a : Vec3 ℝ) : (m.mul n).apply a = m.apply (n.apply a) :=
    (m.apply_apply n a).symm
  exact ⟨column k.colX, column k.colY, column k.colZ⟩

@[simp] theorem identity_apply (a : Vec3 ℝ) : identity.apply a = a := by
  cases a
  simp [identity, apply]

end Linear

/-- An orthonormal matrix that keeps left and right apart. -/
structure Rotation (m : Mat3 ℝ) : Prop where
  orthonormal : m.Orthonormal
  rightHanded : m.toMatrix.det = 1

namespace Rotation

variable {m : Mat3 ℝ}

theorem volume_eq_one (rotation : m.Rotation) :
    m.colX.dot (m.colY.cross m.colZ) = 1 := by
  rw [← det_toMatrix]
  exact rotation.rightHanded

/-- Each axis of a rotation is the vector product of the next two. -/
theorem cross_columns (rotation : m.Rotation) :
    m.colY.cross m.colZ = m.colX ∧ m.colZ.cross m.colX = m.colY ∧
      m.colX.cross m.colY = m.colZ := by
  obtain ⟨unitX, unitY, unitZ, rightXY, rightXZ, rightYZ⟩ :=
    rotation.orthonormal
  have volumeX := rotation.volume_eq_one
  have volumeY : m.colY.dot (m.colZ.cross m.colX) = 1 := by
    rw [← Vec3.dot_cross_rotate, volumeX]
  have volumeZ : m.colZ.dot (m.colX.cross m.colY) = 1 := by
    rw [← Vec3.dot_cross_rotate, volumeY]
  refine ⟨?_, ?_, ?_⟩
  · refine (Vec3.eq_of_dot_eq_one unitX ?_ volumeX).symm
    rw [Vec3.cross_dot_self, unitY, unitZ, rightYZ]
    norm_num
  · refine (Vec3.eq_of_dot_eq_one unitY ?_ volumeY).symm
    rw [Vec3.cross_dot_self, unitX, unitZ, Vec3.dot_comm, rightXZ]
    norm_num
  · refine (Vec3.eq_of_dot_eq_one unitZ ?_ volumeZ).symm
    rw [Vec3.cross_dot_self, unitX, unitY, rightXY]
    norm_num

/-- A rotation takes vector products along. -/
theorem cross_apply (rotation : m.Rotation) (a b : Vec3 ℝ) :
    (m.apply a).cross (m.apply b) = m.apply (a.cross b) := by
  have expanded :
      (m.apply a).cross (m.apply b) =
        (m.colY.cross m.colZ).scale (a.y * b.z - a.z * b.y) +
            (m.colZ.cross m.colX).scale (a.z * b.x - a.x * b.z) +
          (m.colX.cross m.colY).scale (a.x * b.y - a.y * b.x) := by
    simp only [apply, Vec3.scale, Vec3.cross, Vec3.mk_add_mk, Vec3.mk.injEq]
    refine ⟨?_, ?_, ?_⟩ <;> ring
  obtain ⟨axisX, axisY, axisZ⟩ := rotation.cross_columns
  rw [expanded, axisX, axisY, axisZ]
  rfl

end Rotation

/-- A tilt about the y axis is a rotation. -/
theorem rotation_tiltY (degrees : ℝ) : (tiltY degrees).Rotation where
  orthonormal := orthonormal_tiltY degrees
  rightHanded := by
    rw [det_toMatrix]
    simp only [tiltY, turnY, ofRows, Vec3.cross_mk, Vec3.dot_mk,
      Scalar.zero_real, Scalar.one_real]
    linear_combination Real.cos_sq_add_sin_sq (Scalar.radians degrees)

/-- A tilt by no angle leaves every vector as it is. -/
@[simp] theorem tiltY_zero : tiltY 0 = identity := by
  simp [tiltY, turnY, ofRows, identity, Scalar.radians]

end Mat3

end BlackHoleScene
