import BlackHoleScene.Proofs.Observer.Advance
import BlackHoleScene.Proofs.Observer.CameraBasis
import BlackHoleScene.Proofs.Space.Rotation
import Mathlib.LinearAlgebra.CrossProduct

/-!
# The frame of an orbit

Over the real numbers, the frame that follows the motion is there when three
lengths are above the threshold for a direction: `Camera.orbitBasis_eq_ok_iff`.
It is then a rotation whose third axis is normal to the plane of position and
velocity. A position and a velocity that span no plane have no frame: the third
of these lengths is that of their vector product up to a factor.
-/

namespace BlackHoleScene

namespace Vec3

variable (a b : Vec3 ℝ)

/-- The coordinates by their indices. -/
def coordinates (v : Vec3 ℝ) : Fin 3 → ℝ := ![v.x, v.y, v.z]

/-- The vector product is the one of the coordinates. -/
theorem coordinates_cross :
    (a.cross b).coordinates = crossProduct a.coordinates b.coordinates :=
  (cross_apply a.coordinates b.coordinates).symm

/-- A vector without coordinates other than zero is the vector of zeros. -/
theorem coordinates_eq_zero_iff {v : Vec3 ℝ} :
    v.coordinates = 0 ↔ v = zero := by
  cases v
  simp [coordinates]

/-- Two vectors depend on each other when their vector product is zero. -/
theorem cross_eq_zero_iff :
    a.cross b = zero ↔
      ¬LinearIndependent ℝ ![a.coordinates, b.coordinates] := by
  rw [← crossProduct_ne_zero_iff_linearIndependent, not_not,
    ← coordinates_cross, coordinates_eq_zero_iff]

/-- Dividing by a divisor is multiplying by its inverse. -/
theorem shrink_eq_scale (divisor : ℝ) :
    a.shrink divisor = a.scale divisor⁻¹ := by
  simp only [scale, shrink, mk.injEq]
  refine ⟨?_, ?_, ?_⟩ <;> ring

theorem scale_scale (factor first : ℝ) :
    (a.scale first).scale factor = a.scale (factor * first) := by
  simp only [scale, mk.injEq]
  refine ⟨?_, ?_, ?_⟩ <;> ring

theorem cross_scale (factor : ℝ) :
    a.cross (b.scale factor) = (a.cross b).scale factor := by
  simp only [cross, scale, mk.injEq]
  refine ⟨?_, ?_, ?_⟩ <;> ring

/-- A multiple of the left factor does not count in the right one. -/
theorem cross_scale_sub_self (factor : ℝ) :
    a.cross (b.scale factor - a) = (a.cross b).scale factor := by
  cases a
  cases b
  simp only [scale_mk, mk_sub_mk, cross_mk, mk.injEq]
  refine ⟨?_, ?_, ?_⟩ <;> ring

theorem scale_dot (factor : ℝ) :
    (a.scale factor).dot b = factor * a.dot b := by
  simp only [scale, dot]
  ring

theorem scale_zero (factor : ℝ) : (zero : Vec3 ℝ).scale factor = zero := by
  simp

end Vec3

namespace Camera

variable (position velocity : Vec3 ℝ)

/-- Along the motion and inward: the direction of the second axis of the frame.
-/
noncomputable def inward : Vec3 ℝ :=
  velocity.scale (4 / velocity.norm) - position

/-- The second axis of the frame. -/
noncomputable def axisY : Vec3 ℝ :=
  (inward position velocity).shrink (inward position velocity).norm

/-- Out of the plane of the orbit: the direction of the third axis of the frame.
-/
noncomputable def outOfPlane : Vec3 ℝ :=
  position.cross (axisY position velocity)

/-- The third axis of the frame. -/
noncomputable def axisZ : Vec3 ℝ :=
  (outOfPlane position velocity).shrink (outOfPlane position velocity).norm

/-- The motion and the two axes taken from it are long enough to have
directions. -/
structure Directed : Prop where
  moves : Direction.leastLength < velocity.norm
  points : Direction.leastLength < (inward position velocity).norm
  spans : Direction.leastLength < (outOfPlane position velocity).norm

variable {position velocity}

/-- The frame that follows the motion, and when there is one. -/
theorem orbitBasis_eq_ok_iff {frame : Mat3 ℝ} :
    orbitBasis position velocity = .ok frame ↔
      Directed position velocity ∧ frame =
        { colX := (axisY position velocity).cross (axisZ position velocity)
          colY := axisY position velocity
          colZ := axisZ position velocity } := by
  have weighed : (velocity.shrink velocity.norm).scale headingWeight =
      velocity.scale (4 / velocity.norm) := by
    rw [Vec3.shrink_eq_scale, Vec3.scale_scale, ← div_eq_mul_inv,
      headingWeight]
    norm_num
  simp only [orbitBasis, bind_eq_ok_iff, Vec3.normalize_eq_ok_iff]
  constructor
  · rintro ⟨heading, ⟨moves, rfl⟩, second, ⟨points, rfl⟩, third,
      ⟨spans, rfl⟩, joined⟩
    cases joined
    rw [weighed] at points spans ⊢
    exact ⟨⟨moves, points, spans⟩, rfl⟩
  · rintro ⟨⟨moves, points, spans⟩, rfl⟩
    refine ⟨_, ⟨moves, rfl⟩, _, ⟨?_, rfl⟩, _, ⟨?_, rfl⟩, ?_⟩
    all_goals rw [weighed]
    · exact points
    · exact spans
    · rfl

/-- The direction out of the plane is that of the vector product of position and
velocity. -/
theorem outOfPlane_eq (position velocity : Vec3 ℝ) :
    outOfPlane position velocity =
      (position.cross velocity).scale
        ((inward position velocity).norm⁻¹ * (4 / velocity.norm)) := by
  rw [outOfPlane, axisY, Vec3.shrink_eq_scale, Vec3.cross_scale, inward,
    Vec3.cross_scale_sub_self, Vec3.scale_scale]

/-- The matrix is a rotation that takes the first two axes to the plane of an
orbit, the second one along the motion and inward. -/
structure FollowsOrbit
    (position velocity : Vec3 ℝ)
    (frame : Mat3 ℝ) : Prop where
  orthonormal : frame.Orthonormal
  rightHanded : frame.toMatrix.det = 1
  normalToPosition : frame.colZ.dot position = 0
  normalToVelocity : frame.colZ.dot velocity = 0
  alongMotion :
    ∃ factor, 0 < factor ∧
      frame.colY = (velocity.scale (4 / velocity.norm) - position).scale factor

/-- The frame that follows the motion is such a rotation. -/
theorem followsOrbit_of_orbitBasis
    {frame : Mat3 ℝ}
    (framed : orbitBasis position velocity = .ok frame) :
    FollowsOrbit position velocity frame := by
  have orthonormal := orthonormal_of_orbitBasis framed
  obtain ⟨directed, rfl⟩ := orbitBasis_eq_ok_iff.1 framed
  refine ⟨orthonormal, ?rightHanded, ?normalToPosition, ?normalToVelocity,
    ?alongMotion⟩
  case rightHanded =>
    rw [Mat3.det_toMatrix]
    exact orthonormal.unitX
  case normalToPosition =>
    have right : (outOfPlane position velocity).dot position = 0 := by
      rw [Vec3.dot_comm]
      exact Vec3.dot_cross_left position _
    rw [axisZ, Vec3.shrink_dot, right, zero_div]
  case normalToVelocity =>
    have right : (outOfPlane position velocity).dot velocity = 0 := by
      rw [outOfPlane_eq, Vec3.scale_dot, Vec3.dot_comm, Vec3.dot_cross_right,
        mul_zero]
    rw [axisZ, Vec3.shrink_dot, right, zero_div]
  case alongMotion =>
    have positive : 0 < (inward position velocity).norm :=
      Vec3.leastLength_nonneg.trans_lt directed.points
    exact ⟨_, inv_pos.2 positive, Vec3.shrink_eq_scale _ _⟩

/-- A position and a velocity that span no plane have no frame. -/
theorem orbitBasis_ne_ok_of_dependent
    (dependent :
      ¬LinearIndependent ℝ ![position.coordinates, velocity.coordinates])
    (frame : Mat3 ℝ) :
    orbitBasis position velocity ≠ .ok frame := by
  intro framed
  obtain ⟨directed, _⟩ := orbitBasis_eq_ok_iff.1 framed
  have flat : (outOfPlane position velocity).norm = 0 := by
    rw [outOfPlane_eq, (Vec3.cross_eq_zero_iff _ _).2 dependent,
      Vec3.scale_zero, Vec3.norm_zero]
  exact (Vec3.leastLength_nonneg.trans_lt directed.spans).ne' flat

/-- The frame is refused for want of a direction, and only then. -/
theorem orbitBasis_degenerate_or_ok (position velocity : Vec3 ℝ) :
    ¬Directed position velocity ∧
        (∃ cause,
          orbitBasis position velocity = .error (.degenerate cause)) ∨
      ∃ frame, orbitBasis position velocity = .ok frame := by
  cases framed : orbitBasis position velocity with
  | ok frame => exact .inr ⟨frame, rfl⟩
  | error fault =>
      obtain ⟨cause, rfl⟩ := exists_degenerate_of_orbitBasis framed
      refine .inl ⟨fun directed => ?_, cause, rfl⟩
      cases framed.symm.trans (orbitBasis_eq_ok_iff.2 ⟨directed, rfl⟩)

/-- The frame of an orbit is a rotation that follows the orbit, or is refused
for want of a direction, as it is whenever position and velocity depend on each
other. -/
theorem orbitBasis_degenerate_or_followsOrbit (position velocity : Vec3 ℝ) :
    (¬Directed position velocity ∧
        (∃ cause,
          orbitBasis position velocity = .error (.degenerate cause)) ∨
      ∃ frame, orbitBasis position velocity = .ok frame ∧
        FollowsOrbit position velocity frame) ∧
    (¬LinearIndependent ℝ ![position.coordinates, velocity.coordinates] →
      ∃ cause,
        orbitBasis position velocity = .error (.degenerate cause)) := by
  rcases orbitBasis_degenerate_or_ok position velocity with refused |
    ⟨frame, framed⟩
  · exact ⟨.inl refused, fun _ => refused.2⟩
  · refine ⟨.inr ⟨frame, framed, followsOrbit_of_orbitBasis framed⟩,
      fun dependent => ?_⟩
    exact absurd framed (orbitBasis_ne_ok_of_dependent dependent frame)

/-- Against the position, the velocity gives no frame. -/
theorem orbitBasis_degenerate_or_followsOrbit_against :
    let position : Vec3 ℝ := ⟨4, 0, 0⟩
    let velocity : Vec3 ℝ := ⟨-2, 0, 0⟩
    ¬LinearIndependent ℝ ![position.coordinates, velocity.coordinates] ∧
      ∃ cause, orbitBasis position velocity = .error (.degenerate cause) := by
  intro position velocity
  have dependent :
      ¬LinearIndependent ℝ ![position.coordinates, velocity.coordinates] :=
    (Vec3.cross_eq_zero_iff position velocity).1 (by simp [position, velocity])
  exact ⟨dependent,
    (orbitBasis_degenerate_or_followsOrbit position velocity).2 dependent⟩

end Camera

end BlackHoleScene
