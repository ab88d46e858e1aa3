import BlackHoleScene.Proofs.Observer.Horizon

/-!
# Rejected advances

Over the real numbers, an advance is rejected for a negative time, on an orbit
up to radius one and a half, and off it up to the horizon, and for nothing else,
whatever numbers the panel holds: `Observer.advance_rejected_iff`. Wherever it
is not rejected, the roots and quotients on the way have a value. So the panel
accepts the distances on which there is an orbit.
-/

namespace BlackHoleScene

namespace Orbit

/-- No observer moves on back in time, on an orbit as fast as light, or off it
at the horizon. -/
def Rejected
    (elapsed : ℝ)
    (moving : Bool)
    (distance : ℝ)
    (position : Vec3 ℝ) : Prop :=
  elapsed < 0 ∨ moving = true ∧ distance ≤ 1.5 ∨
    moving = false ∧ position.norm ≤ 1

/-- The operands of the roots and quotients on the way to a step of proper time
are such that these have a value. -/
structure Course.Computable
    (course : Course ℝ)
    (position : Vec3 ℝ)
    (step : ℝ) : Prop where
  lengthRoot : 0 ≤ position.dot position
  speedRoot : 0 ≤ 2 * (course.radius - 1)
  speedDivisor : √(2 * (course.radius - 1)) ≠ 0
  radiusDivisor : course.radius ≠ 0
  gravityDivisor : 1 - 1 / course.radius ≠ 0
  stepRoot :
    0 ≤
      step * step * (1 - course.speed * course.speed) / (1 - 1 / course.radius)

/-- Where time passes, its step can be computed. -/
theorem Course.Timelike.computable
    {course : Course ℝ}
    (timelike : course.Timelike)
    (position : Vec3 ℝ)
    (step : ℝ) :
    course.Computable position step := by
  have outside : 0 < 2 * (course.radius - 1) := by linarith [timelike.outside]
  have kinetic : 0 ≤ 1 - course.speed * course.speed := by
    nlinarith [timelike.forward, timelike.slow]
  have gravity : 0 < 1 - 1 / course.radius :=
    one_sub_one_div_pos timelike.outside
  exact
    { lengthRoot := position.dot_self_nonneg
      speedRoot := outside.le
      speedDivisor := (Real.sqrt_pos.2 outside).ne'
      radiusDivisor := by linarith [timelike.outside]
      gravityDivisor := gravity.ne'
      stepRoot :=
        div_nonneg (mul_nonneg (mul_self_nonneg step) kinetic) gravity.le }

end Orbit

/-- A quantity among the controls accepts what it accepts. -/
theorem Control.exists_accept_quantity_iff
    {which : Quantity}
    {value : Value ℝ} :
    (∃ held, (quantity which).accept value = .ok held) ↔
      ∃ x, which.accept value = .ok x := by
  constructor
  · rintro ⟨held, accepted⟩
    obtain ⟨x, taken, _⟩ := map_eq_ok_iff.1 accepted
    exact ⟨x, taken⟩
  · rintro ⟨x, taken⟩
    exact ⟨.real x, map_eq_ok_iff.2 ⟨x, taken, rfl⟩⟩

namespace Quantity

/-- The distance of the observer is accepted when it is beyond radius one and a
half. Truth values are not accepted, and are not beyond it either. -/
theorem accept_observerDistance_iff {number : Number ℝ} :
    (∃ held, observerDistance.accept (.number number) = .ok held) ↔
      3 / 2 < number.value := by
  have least : (leastDistance : ℝ) = 3 / 2 := Scalar.oneAndHalf_real
  by_cases truth : ∃ holds, number = .truth holds
  · obtain ⟨holds, rfl⟩ := truth
    have low : (Number.truth holds : Number ℝ).value ≤ 1 := by
      cases holds <;> norm_num [Number.value]
    constructor
    · rintro ⟨held, accepted⟩
      cases accepted
    · intro beyond
      linarith
  · rw [accept_number (not_exists.1 truth) (Number.toScalar?_eq number),
      if_pos (Scalar.isFinite_real _), violation?, least]
    split_ifs with low
    · simpa using low
    · simpa using low

end Quantity

namespace Observer

open Orbit

/-- The course of an observer on an orbit at a distance, inclined by an angle in
degrees, or off it. -/
noncomputable def courseAt
    (observer : Observer ℝ)
    (moving : Bool)
    (distance degrees : ℝ) : Course ℝ :=
  if moving then orbitCourse observer.properTime distance degrees
  else { radius := observer.position.norm, speed := 0, placement? := none }

section Numbers

variable
  {observer : Observer ℝ}
  {panel : Panel ℝ}
  {seconds distance scale degrees : Number ℝ}
  (placed : panel.quantity .observerDistance = .number distance)
  (scaled : panel.quantity .timeScale = .number scale)
  (inclined : panel.quantity .orbitalInclination = .number degrees)

include placed inclined in
/-- For a time that is not negative, either the advance is rejected for want of
a course, or there is a course on which time passes. -/
theorem course_rejected_or_timelike
    (forward : 0 ≤ seconds.value) :
    let moving := panel.isOn .observerMotion
    let course := observer.courseAt moving distance.value degrees.value
    Rejected seconds.value moving distance.value observer.position ∧
        (∃ cause, observer.course panel = .error (.domain cause)) ∨
      ¬Rejected seconds.value moving distance.value observer.position ∧
        observer.course panel = .ok course ∧ course.Timelike := by
  have read : panel.scalar .observerDistance = .ok distance.value := by
    rw [Panel.scalar, placed]
    exact Arithmetic.scalar_eq distance
  dsimp only
  cases moving : panel.isOn .observerMotion with
  | true =>
      have onCourse :
          observer.course panel = circularCourse observer.properTime panel :=
        if_pos moving
      rw [onCourse]
      rcases le_or_gt distance.value 1.5 with low | beyond
      · refine .inl ⟨.inr (.inl ⟨rfl, low⟩), ?_⟩
        rw [Scalar.oneAndHalf_real] at low
        exact circularCourse_of_low low read _
      · have accepted :
            ¬Rejected seconds.value true distance.value observer.position := by
          simp [Rejected, forward, beyond]
        rw [Scalar.oneAndHalf_real] at beyond
        have outside : 1 < distance.value := by linarith
        have slow : orbitSpeed distance.value < 1 :=
          (orbitSpeed_lt_one_iff outside).2 beyond
        exact .inr ⟨accepted, circularCourse_eq beyond read inclined _,
          outside, (orbitSpeed_pos outside).le, slow⟩
  | false =>
      have onCourse : observer.course panel = restingCourse observer.position :=
        if_neg (by simp [moving])
      rw [onCourse]
      rcases le_or_gt observer.position.norm 1 with inside | outside
      · exact .inl
          ⟨.inr (.inr ⟨rfl, inside⟩), _, restingCourse_of_inside inside⟩
      · refine .inr
          ⟨?_, restingCourse_eq outside, outside, le_rfl, zero_lt_one⟩
        simp [Rejected, forward, outside]

/-- A plan whose step is a number is carried out. -/
theorem advance_of_plan_number
    {elapsed : Value ℝ}
    {course : Course ℝ}
    {step : Number ℝ}
    (planned : observer.plan elapsed panel = .ok (course, .number step)) :
    (observer.advance elapsed panel).result = .ok step ∧
      (observer.advance elapsed panel).state =
        observer.followed course step.value := by
  have onClock : clockStep (.number step) = .ok (step, step.value) := by
    have counted :
        (Arithmetic.number (.number step) : Except (Fault ℝ) (Number ℝ)) =
        .ok step := rfl
    simp only [clockStep, counted, Arithmetic.scalar_eq, bind, Except.bind,
      pure, Except.pure]
  simp only [advance, planned, onClock, followed, place_properTime, and_self]

include scaled in
/-- On a course on which time passes, an advance takes the step of the course
and follows it. -/
theorem exists_step_of_timelike
    {course : Course ℝ}
    (forward : 0 ≤ seconds.value)
    (found : observer.course panel = .ok course)
    (timelike : course.Timelike) :
    ∃ step, (observer.advance (.number seconds) panel).result = .ok step ∧
      step.value = course.step panel (seconds.value * scale.value) ∧
      (observer.advance (.number seconds) panel).state =
        observer.followed course step.value := by
  obtain ⟨product, times, value⟩ := Arithmetic.exists_times scaled seconds
  have planned := observer.plan_of_forward times forward
  have dilated :=
    dilatedStep_eq timelike.outside timelike.forward timelike.slow product
  rw [Course.step, ← value]
  simp only [found, dilated, bind, Except.bind] at planned
  split at planned
  · next dilates =>
      rw [if_pos dilates]
      obtain ⟨moved, followed⟩ := advance_of_plan_number planned
      exact ⟨_, moved, rfl, followed⟩
  · next steady =>
      rw [if_neg steady]
      obtain ⟨moved, followed⟩ := advance_of_plan_number planned
      exact ⟨product, moved, rfl, followed⟩

include placed scaled inclined in
/-- An observer that is not rejected takes the step of its course and follows
it. -/
theorem exists_step_of_not_rejected
    (accepted :
      ¬Rejected seconds.value (panel.isOn .observerMotion) distance.value
        observer.position) :
    let course :=
      observer.courseAt
        (panel.isOn .observerMotion) distance.value degrees.value
    observer.course panel = .ok course ∧ course.Timelike ∧
      ∃ step, (observer.advance (.number seconds) panel).result = .ok step ∧
        step.value = course.step panel (seconds.value * scale.value) ∧
        (observer.advance (.number seconds) panel).state =
          observer.followed course step.value := by
  have forward : 0 ≤ seconds.value :=
    not_lt.1 fun negative => accepted (.inl negative)
  rcases course_rejected_or_timelike placed inclined forward with
    ⟨rejected, _⟩ | ⟨_, found, timelike⟩
  · exact absurd rejected accepted
  · exact ⟨found, timelike,
      exists_step_of_timelike scaled forward found timelike⟩

/-- An advance for a negative time is rejected. -/
theorem advance_of_negative
    (negative : seconds.value < 0) :
    (observer.advance (.number seconds) panel).result =
      .error (.domain (.negativeElapsed seconds)) := by
  have earlier : seconds.Less (.real 0.0) := by
    simpa [Number.less_iff] using negative
  have planned : observer.plan (.number seconds) panel =
      .error (.domain (.negativeElapsed seconds)) := if_pos earlier
  rw [advance_of_plan_error planned]
  rfl

include placed scaled inclined in
/-- An advance is rejected or takes the step of its course. -/
theorem advance_rejected_or_computed :
    Rejected seconds.value (panel.isOn .observerMotion) distance.value
        observer.position ∧
        (∃ cause,
          (observer.advance (.number seconds) panel).result =
            .error (.domain cause)) ∨
      ¬Rejected seconds.value (panel.isOn .observerMotion) distance.value
        observer.position ∧
        ∃ course step,
          observer.course panel = .ok course ∧
            course.Computable observer.position
            (seconds.value * scale.value) ∧
            (observer.advance (.number seconds) panel).result = .ok step ∧
            step.value = course.step panel (seconds.value * scale.value) := by
  rcases lt_or_ge seconds.value 0 with negative | forward
  · exact .inl ⟨.inl negative, _, advance_of_negative negative⟩
  rcases course_rejected_or_timelike placed inclined forward with
    ⟨rejected, cause, missing⟩ | ⟨accepted, _⟩
  · obtain ⟨product, times, _⟩ := Arithmetic.exists_times scaled seconds
    have planned :
        observer.plan (.number seconds) panel = .error (.domain cause) := by
      rw [observer.plan_of_forward times forward, missing]
      rfl
    refine .inl ⟨rejected, cause, ?_⟩
    rw [advance_of_plan_error planned]
    rfl
  · obtain ⟨found, timelike, step, moved, value, _⟩ :=
      exists_step_of_not_rejected placed scaled inclined accepted
    exact .inr
      ⟨accepted, _, step, found, timelike.computable _ _, moved, value⟩

end Numbers

/-- An advance is rejected back in time, on an orbit up to radius one and a
half, which the panel refuses as well, and off it up to the horizon. Otherwise
all that it computes has a value. -/
theorem advance_rejected_iff
    {observer : Observer ℝ}
    {panel : Panel ℝ}
    {seconds distance scale degrees : Number ℝ}
    (placed : panel.quantity .observerDistance = .number distance)
    (scaled : panel.quantity .timeScale = .number scale)
    (inclined : panel.quantity .orbitalInclination = .number degrees) :
    let result := (observer.advance (.number seconds) panel).result
    let rejected :=
      Rejected seconds.value (panel.isOn .observerMotion) distance.value
        observer.position
    let coordinateStep := seconds.value * scale.value
    ((∃ cause, result = .error (.domain cause)) ↔ rejected) ∧
      (¬rejected →
        ∃ course step,
          observer.course panel = .ok course ∧
            course.Computable observer.position coordinateStep ∧
            result = .ok step ∧
              step.value = course.step panel coordinateStep) ∧
      (panel.isOn .observerMotion = true → 0 ≤ seconds.value →
        ((∃ held,
          (Control.quantity .observerDistance).accept
            (panel.quantity .observerDistance) =
            .ok held) ↔
          ∃ step, result = .ok step)) := by
  intro result rejected coordinateStep
  have orbits
      (moving : panel.isOn .observerMotion = true)
        (forward : 0 ≤ seconds.value) :
      (∃ held,
        (Control.quantity .observerDistance).accept
          (panel.quantity .observerDistance) =
          .ok held) ↔ ¬rejected := by
    rw [placed, Control.exists_accept_quantity_iff,
      Quantity.accept_observerDistance_iff]
    simp [rejected, Rejected, Scalar.oneAndHalf_real, moving, forward]
  rcases advance_rejected_or_computed placed scaled inclined with
    ⟨refused, cause, stopped⟩ |
      ⟨accepted, course, step, found, computable, moved, value⟩
  · have never : ¬∃ step, result = .ok step := by
      rintro ⟨step, moved⟩
      cases stopped.symm.trans moved
    refine ⟨⟨fun _ => refused, fun _ => ⟨cause, stopped⟩⟩,
      fun accepted => absurd refused accepted,
      fun moving forward => (orbits moving forward).trans ?_⟩
    exact ⟨fun accepted => absurd refused accepted,
      fun moves => absurd moves never⟩
  · have never : ¬∃ cause, result = .error (.domain cause) := by
      rintro ⟨cause, stopped⟩
      cases stopped.symm.trans moved
    refine ⟨⟨fun stops => absurd stops never,
      fun refused => absurd refused accepted⟩,
      fun _ => ⟨course, step, found, computable, moved, value⟩,
      fun moving forward => (orbits moving forward).trans ?_⟩
    exact ⟨fun _ => ⟨step, moved⟩, fun _ => accepted⟩

/-- At radius one and a half there is no orbit. -/
theorem advance_rejected_at_light_orbit :
    let panel : Panel ℝ :=
      Panel.initial.assign (.quantity .observerDistance) (.real 1.5)
    panel.quantity .observerDistance = .real 1.5 ∧
      panel.quantity .timeScale = .real 1.0 ∧
      panel.quantity .orbitalInclination = .real (-10.0) ∧
      ∃ cause,
        (start.advance (.real 1) panel).result = .error (.domain cause) := by
  intro panel
  refine ⟨rfl, rfl, rfl, ?_⟩
  exact (advance_rejected_iff rfl rfl rfl).1.2 (.inr (.inl ⟨rfl, le_rfl⟩))

end Observer

end BlackHoleScene
