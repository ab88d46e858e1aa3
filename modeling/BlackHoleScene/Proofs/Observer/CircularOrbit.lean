import BlackHoleScene.Proofs.Observer.Advance
import BlackHoleScene.Proofs.Space.Orthonormal

/-!
# Circular orbits over the real numbers

Beyond radius one and a half, the circular orbit is slower than light, and the
course along it is a closed formula: the observer stays at its radius, moves
with the orbital speed, and moves at right angles to where it is. Wherever a
course leads outside the horizon and is slower than light, the step of proper
time has a value too, so an advance for some time that is not negative never
stops.
-/

namespace BlackHoleScene

namespace Orbit

/-- The speed on the circular orbit of a radius. -/
noncomputable def orbitSpeed (radius : ℝ) : ℝ := 1 / √(2 * (radius - 1))

section Speed

variable {radius : ℝ}

theorem orbitSpeed_pos (outside : 1 < radius) : 0 < orbitSpeed radius := by
  have inside : 0 < 2 * (radius - 1) := by linarith
  exact one_div_pos.2 (Real.sqrt_pos.2 inside)

/-- Beyond radius one and a half, and only there, an orbit is slower than light.
-/
theorem orbitSpeed_lt_one_iff (outside : 1 < radius) :
    orbitSpeed radius < 1 ↔ 3 / 2 < radius := by
  have inside : 0 < 2 * (radius - 1) := by linarith
  rw [orbitSpeed, div_lt_one (Real.sqrt_pos.2 inside), Real.lt_sqrt zero_le_one]
  constructor <;> intro bound <;> linarith

/-- A radius is outside the horizon when its value is. -/
theorem radiusOutside_eq
    {radius : Number ℝ}
    (outside : 1 < radius.value) :
    radiusOutside radius = .ok radius.value := by
  have accepted :
      ¬(¬Scalar.isFinite radius.value = true ∨
        radius.value ≤ horizonRadius) := by
    simpa [horizonRadius] using outside
  rw [radiusOutside, Arithmetic.scalar_eq]
  exact if_neg accepted

/-- No radius is outside the horizon when its value is not. -/
theorem radiusOutside_of_inside
    {radius : Number ℝ}
    (inside : radius.value ≤ 1) :
    radiusOutside radius = .error (.domain (.insideHorizon radius)) := by
  have refused :
      ¬Scalar.isFinite radius.value = true ∨
        radius.value ≤ horizonRadius := by
    simpa [horizonRadius] using inside
  rw [radiusOutside, Arithmetic.scalar_eq]
  exact if_pos refused

/-- The speed on a circular orbit is found outside the horizon. -/
theorem circularSpeed_eq (outside : 1 < radius) :
    circularSpeed (.real radius) = .ok (orbitSpeed radius) := by
  have inside : 0 < 2 * (radius - 1) := by linarith
  have root : √(2 * (radius - 1)) ≠ 0 := (Real.sqrt_pos.2 inside).ne'
  have accepted : radiusOutside (.real radius) = .ok radius :=
    radiusOutside_eq outside
  simp only [circularSpeed, accepted, bind, Except.bind, Scalar.one_real,
    Scalar.two_real, Arithmetic.sqrt_eq inside.le, Arithmetic.div_eq root,
    orbitSpeed]

end Speed

/-- The step of proper time for a step of coordinate time, at a speed and a
radius where time passes. -/
noncomputable def properStep (step speed radius : ℝ) : ℝ :=
  √(step ^ 2 * (1 - speed ^ 2) / (1 - 1 / radius))

/-- Outside the horizon, time slows down but does not stop. -/
theorem one_sub_one_div_pos
    {radius : ℝ}
    (outside : 1 < radius) :
    0 < 1 - 1 / radius := by
  rw [sub_pos, div_lt_one (by linarith)]
  exact outside

/-- Outside the horizon and slower than light, time passes. -/
theorem dilatedStep_eq
    {speed radius : ℝ}
    (outside : 1 < radius)
    (forward : 0 ≤ speed)
    (slow : speed < 1)
    (step : Number ℝ) :
    dilatedStep (.number step) (.real speed) (.real radius) =
      .ok (properStep step.value speed radius) := by
  have accepted : radiusOutside (.real radius) = .ok radius :=
    radiusOutside_eq outside
  have below : ¬(Number.real 1).AtMost (.real speed) := by
    simpa [Number.atMost_iff] using slow
  have kinetic : 0 ≤ 1 - speed * speed := by nlinarith
  have gravitational : 0 < 1 - 1 / radius := one_sub_one_div_pos outside
  have ratio :
      0 ≤ step.value * step.value * (1 - speed * speed) / (1 - 1 / radius) :=
    div_nonneg
      (mul_nonneg (mul_self_nonneg step.value) kinetic) gravitational.le
  have nonzero : radius ≠ 0 := by linarith
  have numbers :
      ∀ x : Number ℝ,
        (Arithmetic.number (.number x) : Except (Fault ℝ) (Number ℝ)) =
          .ok x := fun _ => rfl
  obtain ⟨square, squared, squareValue⟩ := Arithmetic.exists_mul step step
  simp only [dilatedStep, numbers, accepted, bind, Except.bind, if_neg below,
    squared, squareValue, Arithmetic.mul_real, Arithmetic.scalar_eq,
    Number.value_real, Scalar.one_real, Arithmetic.div_eq nonzero,
    Arithmetic.div_eq gravitational.ne', Arithmetic.sqrt_eq ratio, properStep,
    sq]

/-- Place and velocity on a circular orbit at a phase, in a tilted plane. -/
noncomputable def onCircle
    (radius phase : ℝ)
    (tilt : Mat3 ℝ) : Placement ℝ where
  position :=
    tilt.apply ⟨Real.cos phase * radius, Real.sin phase * radius, 0⟩
  velocity :=
    tilt.apply
      ⟨-Real.sin phase * orbitSpeed radius,
        Real.cos phase * orbitSpeed radius, 0⟩

section Circle

variable {radius : ℝ} {tilt : Mat3 ℝ}

/-- An observer on a circular orbit is at its radius. -/
theorem norm_position_onCircle
    (nonneg : 0 ≤ radius)
    (orthonormal : tilt.Orthonormal)
    (phase : ℝ) :
    (onCircle radius phase tilt).position.norm = radius := by
  rw [onCircle, orthonormal.norm_apply]
  apply Vec3.norm_eq_of_dot_self nonneg
  rw [Vec3.dot]
  linear_combination radius ^ 2 * Real.cos_sq_add_sin_sq phase

/-- An observer on a circular orbit has its speed. -/
theorem norm_velocity_onCircle
    (outside : 1 < radius)
    (orthonormal : tilt.Orthonormal)
    (phase : ℝ) :
    (onCircle radius phase tilt).velocity.norm = orbitSpeed radius := by
  rw [onCircle, orthonormal.norm_apply]
  apply Vec3.norm_eq_of_dot_self (orbitSpeed_pos outside).le
  rw [Vec3.dot]
  linear_combination orbitSpeed radius ^ 2 * Real.cos_sq_add_sin_sq phase

/-- An observer on a circular orbit moves at right angles to where it is. -/
theorem dot_onCircle
    (orthonormal : tilt.Orthonormal)
    (phase : ℝ) :
    (onCircle radius phase tilt).position.dot
      (onCircle radius phase tilt).velocity = 0 := by
  rw [onCircle, orthonormal.dot_apply, Vec3.dot]
  ring

end Circle

/-- The course along the circular orbit of a radius, tilted by an angle in
degrees, at a reading of the observer's clock. -/
noncomputable def orbitCourse (properTime radius degrees : ℝ) :
    Course ℝ where
  radius := radius
  speed := orbitSpeed radius
  placement? :=
    some
      (onCircle radius (properTime * (orbitSpeed radius / radius))
        (.tiltY degrees))

/-- The circular course is found beyond radius one and a half. -/
theorem circularCourse_eq
    {panel : Panel ℝ}
    {radius : ℝ}
    {degrees : Number ℝ}
    (beyond : 3 / 2 < radius)
    (distance : panel.scalar .observerDistance = .ok radius)
    (inclination : panel.quantity .orbitalInclination = .number degrees)
    (properTime : ℝ) :
    circularCourse properTime panel =
      .ok (orbitCourse properTime radius degrees.value) := by
  have outside : 1 < radius := by linarith
  have nonzero : radius ≠ 0 := by linarith
  have slow : ¬1 ≤ orbitSpeed radius :=
    ((orbitSpeed_lt_one_iff outside).2 beyond).not_ge
  have read :
      (Arithmetic.number (.number degrees) : Except (Fault ℝ) (Number ℝ)) =
      .ok degrees := rfl
  simp only [circularCourse, distance, circularSpeed_eq outside,
    Scalar.one_real, if_neg slow, Arithmetic.div_eq nonzero, Arithmetic.sin_eq,
    Arithmetic.cos_eq, inclination, read, Mat3.rotationY_eq, bind, Except.bind,
    pure, Except.pure, Scalar.zero_real, orbitCourse, onCircle]

/-- Up to radius one and a half, no circular course is found. -/
theorem circularCourse_of_low
    {panel : Panel ℝ}
    {radius : ℝ}
    (low : radius ≤ 3 / 2)
    (distance : panel.scalar .observerDistance = .ok radius)
    (properTime : ℝ) :
    ∃ cause, circularCourse properTime panel = .error (.domain cause) := by
  rcases lt_or_ge 1 radius with outside | inside
  · have fast : 1 ≤ orbitSpeed radius := by
      rw [← not_lt, orbitSpeed_lt_one_iff outside]
      exact low.not_gt
    refine ⟨.noTimelikeOrbit radius (orbitSpeed radius), ?_⟩
    simp only [circularCourse, distance, circularSpeed_eq outside,
      Scalar.one_real, if_pos fast, bind, Except.bind]
  · have refused :
        radiusOutside (.real radius) =
          .error (.domain (.insideHorizon (.real radius))) :=
      radiusOutside_of_inside inside
    refine ⟨.insideHorizon (.real radius), ?_⟩
    simp only [circularCourse, distance, circularSpeed, refused, bind,
      Except.bind]

/-- The course of an observer that stays outside the horizon. -/
theorem restingCourse_eq
    {position : Vec3 ℝ}
    (outside : 1 < position.norm) :
    restingCourse position =
      .ok { radius := position.norm, speed := 0, placement? := none } := by
  have accepted : radiusOutside (.real position.norm) = .ok position.norm :=
    radiusOutside_eq outside
  simp only [restingCourse, accepted, bind, Except.bind, pure, Except.pure,
    Scalar.zero_real]

end Orbit

end BlackHoleScene
