import BlackHoleScene.Proofs.Observer.CameraBasis
import BlackHoleScene.Proofs.Observer.CircularOrbit

/-!
# Regular observers

An observer is regular when it is slower than light, beyond radius one and a
half, and has an orthonormal camera basis. On a valid panel, such an observer
can always move on, whether on its orbit or at rest, and turn to every
orthonormal view, and it is regular again afterwards. Once it has done both, it
is where the panel puts it.
-/

namespace BlackHoleScene

namespace Panel.Valid

variable {panel : Panel ℝ}

/-- The time scale of a valid panel is not negative. -/
theorem timeScale_eq (valid : panel.Valid) :
    ∃ scale : ℝ,
      panel.quantity .timeScale = .real scale ∧ 0 ≤ scale := by
  obtain ⟨scale, held, _, within⟩ := valid.scalar_eq .timeScale
  refine ⟨scale, held, ?_⟩
  simpa [Quantity.violation?] using within

/-- The observer's distance on a valid panel is above one and a half. -/
theorem distance_eq (valid : panel.Valid) :
    ∃ distance : ℝ,
      panel.scalar .observerDistance = .ok distance ∧ 3 / 2 < distance := by
  obtain ⟨distance, _, read, within⟩ := valid.scalar_eq .observerDistance
  refine ⟨distance, read, ?_⟩
  have least : (Quantity.leastDistance : ℝ) = 3 / 2 := Scalar.oneAndHalf_real
  simpa [Quantity.violation?, least] using within

end Panel.Valid

/-- Every control starts with a value that is valid over the real numbers too.
-/
theorem Panel.valid_initial_real : (initial : Panel ℝ).Valid := by
  intro control
  cases control with
  | quality => rfl
  | flag which => rfl
  | quantity which =>
      refine Control.valid_quantity_iff.2 ?_
      cases which
      all_goals
        exact ⟨_, rfl, rfl,
          by norm_num [Quantity.violation?, Quantity.leastDistance]⟩

namespace Orbit

/-- Time passes on the course: it leads outside the horizon and is slower than
light. -/
structure Course.Timelike (course : Course ℝ) : Prop where
  outside : 1 < course.radius
  forward : 0 ≤ course.speed
  slow : course.speed < 1

/-- The step of proper time on a course, for a step of coordinate time. -/
noncomputable def Course.step
    (course : Course ℝ)
    (panel : Panel ℝ)
    (step : ℝ) : ℝ :=
  if panel.isOn .gravitationalTimeDilation then
    properStep step course.speed course.radius
  else step

end Orbit

/-- A number has a product with a scale that is a number. -/
theorem Arithmetic.exists_times
    {scale : Number ℝ}
    {value : Value ℝ}
    (scaled : value = .number scale)
    (seconds : Number ℝ) :
    ∃ product : Number ℝ,
      times seconds value = .ok (.number product) ∧
        product.value = seconds.value * scale.value := by
  obtain ⟨product, multiplied, exact⟩ := exists_mul seconds scale
  refine ⟨product, ?_, exact⟩
  rw [scaled, times, multiplied]
  rfl

/-- The product of a number and a scale that is a scalar. -/
theorem Arithmetic.times_real
    {seconds : Number ℝ}
    {scale : ℝ}
    {value : Value ℝ}
    (scaled : value = .real scale) :
    times seconds value = .ok (.real (seconds.value * scale)) := by
  rw [scaled, times, mul, Number.mul?_real, Number.toScalar?_eq]
  rfl

namespace Observer

open Orbit

/-- For a time that is not negative, a plan only takes a course. -/
theorem plan_of_forward
    (observer : Observer ℝ)
    {panel : Panel ℝ}
    {seconds : Number ℝ}
    {product : Value ℝ}
    (scaled :
      Arithmetic.times seconds (panel.quantity .timeScale) = .ok product)
    (forward : 0 ≤ seconds.value) :
    observer.plan (.number seconds) panel =
      (do
        let course ← observer.course panel
        if panel.isOn .gravitationalTimeDilation then
          let step ←
            dilatedStep product (.real course.speed) (.real course.radius)
          return (course, .real step)
        else return (course, product)) := by
  have later : ¬seconds.Less (.real 0.0) := by
    simpa [Number.less_iff] using forward
  exact observer.plan_of_later scaled later

/-- Where time passes, there is a plan for every time that is not negative. -/
theorem plan_eq
    {observer : Observer ℝ}
    {panel : Panel ℝ}
    {course : Course ℝ}
    {seconds : Number ℝ}
    {scale : ℝ}
    (found : observer.course panel = .ok course)
    (timelike : course.Timelike)
    (scaled : panel.quantity .timeScale = .real scale)
    (forward : 0 ≤ seconds.value) :
    observer.plan (.number seconds) panel =
      .ok (course, .real (course.step panel (seconds.value * scale))) := by
  simp only [observer.plan_of_forward (Arithmetic.times_real scaled) forward,
    found, bind, Except.bind, Course.step]
  split
  · rw [dilatedStep_eq timelike.outside timelike.forward timelike.slow]
    rfl
  · rfl

/-- The observer is slower than light, beyond radius one and a half, and has an
orthonormal camera basis. -/
structure Regular (observer : Observer ℝ) : Prop where
  slow : observer.velocity.norm < 1
  beyond : 3 / 2 < observer.position.norm
  orthonormal : observer.orientation.Orthonormal

/-- The observer is where the panel puts it: at its distance, and moving at
right angles to its place on an orbit, or at rest without one. -/
structure PlacedBy (observer : Observer ℝ) (panel : Panel ℝ) : Prop where
  distance : panel.scalar .observerDistance = .ok observer.position.norm
  orbiting :
    panel.isOn .observerMotion = true →
      observer.position.dot observer.velocity = 0
  resting : panel.isOn .observerMotion = false → observer.velocity = Vec3.zero

/-- The observer begins at radius ten with the speed of the orbit there. -/
theorem start_eq :
    (start : Observer ℝ).position = ⟨10, 0, 0⟩ ∧
      (start : Observer ℝ).velocity = ⟨0, orbitSpeed 10, 0⟩ := by
  norm_num [start, crossingAxis, orbitSpeed, startRadius, Scalar.sqrt]

/-- The observer begins regular. -/
theorem regular_start : (start : Observer ℝ).Regular where
  slow := by
    have outside : (1 : ℝ) < 10 := by norm_num
    have length :
        (⟨0, orbitSpeed 10, 0⟩ : Vec3 ℝ).norm = orbitSpeed 10 := by
      apply Vec3.norm_eq_of_dot_self (orbitSpeed_pos outside).le
      simp [sq]
    rw [start_eq.2, length]
    exact (orbitSpeed_lt_one_iff outside).2 (by norm_num)
  beyond := by
    have length : (⟨10, 0, 0⟩ : Vec3 ℝ).norm = 10 :=
      Vec3.norm_eq_of_dot_self (by norm_num) (by norm_num)
    rw [start_eq.1, length]
    norm_num
  orthonormal := Mat3.orthonormal_identity

/-- On an orbit, a valid panel sets a circular course beyond radius one and a
half. -/
theorem course_eq_of_moving
    (observer : Observer ℝ)
    {panel : Panel ℝ}
    (valid : panel.Valid)
    (moving : panel.isOn .observerMotion = true) :
    ∃ radius degrees,
      panel.scalar .observerDistance = .ok radius ∧ 3 / 2 < radius ∧
        observer.course panel =
          .ok (orbitCourse observer.properTime radius degrees) := by
  obtain ⟨radius, distance, beyond⟩ := valid.distance_eq
  obtain ⟨degrees, inclination, _⟩ := valid.quantity_eq .orbitalInclination
  refine ⟨radius, degrees, distance, beyond, ?_⟩
  rw [course, if_pos moving]
  exact circularCourse_eq beyond distance inclination observer.properTime

/-- Where time passes, an advance follows its course. -/
theorem advance_eq
    {observer : Observer ℝ}
    {panel : Panel ℝ}
    {course : Course ℝ}
    {seconds : Number ℝ}
    {scale : ℝ}
    (found : observer.course panel = .ok course)
    (timelike : course.Timelike)
    (scaled : panel.quantity .timeScale = .real scale)
    (forward : 0 ≤ seconds.value) :
    ∃ step,
      (observer.advance (.number seconds) panel).result = .ok (.real step) ∧
      (observer.advance (.number seconds) panel).state =
        observer.followed course step :=
  ⟨_, advance_of_plan_ok (plan_eq found timelike scaled forward)⟩

section Moving

variable {observer : Observer ℝ} {panel : Panel ℝ} {seconds : Number ℝ}

/-- On an orbit, a regular observer moves on along the orbit of the panel. -/
theorem Regular.advance_of_moving
    (regular : observer.Regular)
    (valid : panel.Valid)
    (forward : 0 ≤ seconds.value)
    (moving : panel.isOn .observerMotion = true) :
    ∃ step, (observer.advance (.number seconds) panel).result = .ok step ∧
      (observer.advance (.number seconds) panel).state.Regular ∧
      (observer.advance (.number seconds) panel).state.PlacedBy panel := by
  obtain ⟨scale, scaled, _⟩ := valid.timeScale_eq
  obtain ⟨radius, degrees, distance, beyond, found⟩ :=
    observer.course_eq_of_moving valid moving
  have outside : 1 < radius := by linarith
  have slow : orbitSpeed radius < 1 := (orbitSpeed_lt_one_iff outside).2 beyond
  have tilted := Mat3.orthonormal_tiltY degrees
  obtain ⟨step, moved, followed⟩ :=
    advance_eq
      found ⟨outside, (orbitSpeed_pos outside).le, slow⟩ scaled forward
  let phase := observer.properTime * (orbitSpeed radius / radius)
  let placement := onCircle radius phase (.tiltY degrees)
  have length : placement.position.norm = radius :=
    norm_position_onCircle (by linarith) tilted _
  have speed : placement.velocity.norm = orbitSpeed radius :=
    norm_velocity_onCircle outside tilted _
  have right : placement.position.dot placement.velocity = 0 :=
    dot_onCircle tilted _
  refine ⟨.real step, moved, ?regular, ?placed⟩
  all_goals rw [followed]
  case regular =>
    exact ⟨speed.trans_lt slow, beyond.trans_eq length.symm,
      regular.orthonormal⟩
  case placed =>
    have settled := distance.trans (congrArg Except.ok length.symm)
    exact ⟨settled, fun _ => right,
      fun resting => absurd moving (by simp [resting])⟩

/-- Off its orbit, a regular observer stays where it is. -/
theorem Regular.advance_of_resting
    (regular : observer.Regular)
    (valid : panel.Valid)
    (forward : 0 ≤ seconds.value)
    (resting : panel.isOn .observerMotion = false) :
    ∃ step, (observer.advance (.number seconds) panel).result = .ok step ∧
      (observer.advance (.number seconds) panel).state.Regular := by
  obtain ⟨scale, scaled, _⟩ := valid.timeScale_eq
  have outside : 1 < observer.position.norm := by linarith [regular.beyond]
  let course : Course ℝ := ⟨observer.position.norm, 0, none⟩
  have found : observer.course panel = .ok course := by
    rw [Observer.course, if_neg (by simp [resting])]
    exact restingCourse_eq outside
  have timelike : course.Timelike := ⟨outside, le_rfl, zero_lt_one⟩
  obtain ⟨step, moved, followed⟩ := advance_eq found timelike scaled forward
  refine ⟨.real step, moved, ?_⟩
  rw [followed]
  exact ⟨regular.slow, regular.beyond, regular.orthonormal⟩

/-- A regular observer can move on, and is regular then. On an orbit, it is
where the panel puts it. -/
theorem Regular.advance
    (regular : observer.Regular)
    (valid : panel.Valid)
    (forward : 0 ≤ seconds.value) :
    ∃ step, (observer.advance (.number seconds) panel).result = .ok step ∧
      (observer.advance (.number seconds) panel).state.Regular ∧
      (panel.isOn .observerMotion = true →
        (observer.advance (.number seconds) panel).state.PlacedBy panel) := by
  cases moving : panel.isOn .observerMotion with
  | true =>
      obtain ⟨step, moved, kept, placed⟩ :=
        regular.advance_of_moving valid forward moving
      exact ⟨step, moved, kept, fun _ => placed⟩
  | false =>
      obtain ⟨step, moved, kept⟩ :=
        regular.advance_of_resting valid forward moving
      refine ⟨step, moved, kept, ?_⟩
      intro orbits
      cases orbits

end Moving

/-- A regular observer stays regular when it turns to a view that is
orthonormal, and is then where the panel puts it, if it was there before in case
of an orbit. -/
theorem Regular.turnTo
    {observer : Observer ℝ}
    {panel : Panel ℝ}
    {view : Transform ℝ}
    (regular : observer.Regular)
    (valid : panel.Valid)
    (orthonormal : view.turn.Orthonormal)
    (placed : panel.isOn .observerMotion = true → observer.PlacedBy panel) :
    (observer.turnTo view panel).state.Regular ∧
      (observer.turnTo view panel).state.PlacedBy panel := by
  have camera := Camera.orthonormal_basisOfView orthonormal
  cases moving : panel.isOn .observerMotion with
  | true =>
      cases framed : Camera.orbitBasis observer.position observer.velocity with
      | error fault =>
          rw [turnTo_of_orbitBasis_error moving framed]
          exact ⟨regular, placed moving⟩
      | ok frame =>
          rw [turnTo_of_orbitBasis_ok moving framed]
          have turned := (Camera.orthonormal_of_orbitBasis framed).mul camera
          have kept := placed moving
          exact ⟨⟨regular.slow, regular.beyond, turned⟩, kept.distance,
            kept.orbiting, kept.resting⟩
  | false =>
      obtain ⟨distance, read, beyond⟩ := valid.distance_eq
      rw [turnTo_of_not_moving moving read]
      have length :
          (Camera.positionBehind (Camera.basisOfView view) distance).norm =
            distance :=
        Camera.norm_positionBehind camera (by linarith)
      refine ⟨⟨?slow, length.symm ▸ beyond, camera⟩,
        length.symm ▸ read, ?orbiting, fun _ => rfl⟩
      case slow =>
        change (Vec3.zero : Vec3 ℝ).norm < 1
        rw [Vec3.norm_zero]
        exact zero_lt_one
      case orbiting =>
        intro orbits
        rw [moving] at orbits
        cases orbits

end Observer

end BlackHoleScene
