import BlackHoleScene.Observer.Camera
import BlackHoleScene.Proofs.Outcome
import BlackHoleScene.Proofs.Space.Orthonormal

/-!
# Camera bases over the real numbers

The frame that follows the motion is orthonormal whenever there is one, since
its axes are normalized vectors and products of them. The basis of a view that
turns orthonormally is orthonormal too, and puts the observer at the distance
asked for.
-/

namespace BlackHoleScene

namespace Vec3

/-- A vector is normalized when its length is above the threshold. -/
theorem normalize_eq_ok_iff
    {subject : String}
    {v unit : Vec3 ℝ} :
    v.normalize subject = .ok unit ↔
      Direction.leastLength < v.norm ∧ unit = v.shrink v.norm := by
  rw [normalize, bind_eq_ok_iff]
  constructor
  · rintro ⟨_, checked, shrunk⟩
    unfold Direction.checkLength at checked
    split at checked
    · cases checked
    · next accepted =>
        cases shrunk
        exact ⟨by simpa using accepted, rfl⟩
  · rintro ⟨long, rfl⟩
    have accepted :
        ¬(¬Scalar.isFinite v.norm = true ∨
          v.norm ≤ Direction.leastLength) := by
      simpa using long
    exact ⟨(), if_neg accepted, rfl⟩

/-- The threshold for the length is not negative. -/
theorem leastLength_nonneg : 0 ≤ (Direction.leastLength : ℝ) := by
  norm_num [Direction.leastLength]

/-- Dividing a vector by its length divides its scalar products. -/
theorem shrink_dot
    (a b : Vec3 ℝ)
    (divisor : ℝ) :
    (a.shrink divisor).dot b = a.dot b / divisor := by
  simp only [shrink, dot]
  ring

/-- A normalized vector has length one. -/
theorem dot_self_of_normalize
    {subject : String}
    {v unit : Vec3 ℝ}
    (normalized : v.normalize subject = .ok unit) :
    unit.dot unit = 1 := by
  obtain ⟨long, rfl⟩ := normalize_eq_ok_iff.1 normalized
  have positive : 0 < v.norm := leastLength_nonneg.trans_lt long
  rw [shrink_dot, dot_comm, shrink_dot, ← norm_sq]
  field_simp

/-- What stands at right angles to a vector also does so to it normalized. -/
theorem dot_eq_zero_of_normalize
    {subject : String}
    {v unit other : Vec3 ℝ}
    (normalized : v.normalize subject = .ok unit)
    (right : v.dot other = 0) :
    unit.dot other = 0 := by
  obtain ⟨_, rfl⟩ := normalize_eq_ok_iff.1 normalized
  rw [shrink_dot, right, zero_div]

end Vec3

namespace Camera

/-- The frame that follows the motion is orthonormal. -/
theorem orthonormal_of_orbitBasis
    {position velocity : Vec3 ℝ}
    {frame : Mat3 ℝ}
    (framed : orbitBasis position velocity = .ok frame) :
    frame.Orthonormal := by
  obtain ⟨heading, _, onHeading⟩ := bind_eq_ok_iff.1 framed
  obtain ⟨axisY, second, onSecond⟩ := bind_eq_ok_iff.1 onHeading
  obtain ⟨axisZ, third, joined⟩ := bind_eq_ok_iff.1 onSecond
  cases joined
  have unitY : axisY.dot axisY = 1 := Vec3.dot_self_of_normalize second
  have unitZ : axisZ.dot axisZ = 1 := Vec3.dot_self_of_normalize third
  have right : axisY.dot axisZ = 0 := by
    rw [Vec3.dot_comm]
    apply Vec3.dot_eq_zero_of_normalize third
    rw [Vec3.dot_comm]
    exact Vec3.dot_cross_right position axisY
  constructor
  case unitX => rw [Vec3.cross_dot_self, unitY, unitZ, right]; norm_num
  case unitY => exact unitY
  case unitZ => exact unitZ
  case rightXY => rw [Vec3.dot_comm]; exact Vec3.dot_cross_left axisY axisZ
  case rightXZ => rw [Vec3.dot_comm]; exact Vec3.dot_cross_right axisY axisZ
  case rightYZ => exact right

/-- The basis of a view that turns orthonormally is orthonormal. -/
theorem orthonormal_basisOfView
    {view : Transform ℝ}
    (orthonormal : view.turn.Orthonormal) :
    (basisOfView view).Orthonormal := by
  have exchanged :
      Mat3.Orthonormal ⟨view.turn.colX, view.turn.colZ, view.turn.colY⟩ :=
    { unitX := orthonormal.unitX
      unitY := orthonormal.unitZ
      unitZ := orthonormal.unitY
      rightXY := orthonormal.rightXZ
      rightXZ := orthonormal.rightXY
      rightYZ := by
        rw [Vec3.dot_comm]
        exact orthonormal.rightYZ }
  exact exchanged.ofRows

/-- The place behind a camera is as far as the distance asked for times the
length of the third axis. -/
theorem norm_positionBehind_eq
    (camera : Mat3 ℝ)
    {distance : ℝ}
    (nonneg : 0 ≤ distance) :
    (positionBehind camera distance).norm = distance * camera.colZ.norm := by
  have length : 0 ≤ camera.colZ.norm := Real.sqrt_nonneg _
  apply Vec3.norm_eq_of_dot_self (mul_nonneg nonneg length)
  rw [positionBehind, Vec3.dot_self_scale, Vec3.dot_self_neg, mul_pow,
    Vec3.norm_sq]

/-- The place behind an orthonormal camera is at the distance asked for. -/
theorem norm_positionBehind
    {camera : Mat3 ℝ}
    (orthonormal : camera.Orthonormal)
    {distance : ℝ}
    (nonneg : 0 ≤ distance) :
    (positionBehind camera distance).norm = distance := by
  have unit : camera.colZ.norm = 1 :=
    Vec3.norm_eq_of_dot_self zero_le_one (by rw [orthonormal.unitZ, one_pow])
  rw [norm_positionBehind_eq camera nonneg, unit, mul_one]

end Camera

end BlackHoleScene
