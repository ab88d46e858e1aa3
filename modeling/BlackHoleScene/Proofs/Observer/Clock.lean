import BlackHoleScene.Proofs.Observer.Horizon

/-!
# The clock of an observer

Only an advance moves the clock. Over the real numbers, an advance on a valid
panel for a time that is not negative takes a course on which time passes, so
the clock stands still exactly when no wall-clock time passes or the time scale
is zero: `Observer.properTime_advance_eq_iff`.
-/

namespace BlackHoleScene

namespace Orbit

/-- Where time passes, the clock stands still only for a step of no coordinate
time. -/
theorem Course.Timelike.step_eq_zero_iff
    {course : Course ℝ}
    (timelike : course.Timelike)
    (panel : Panel ℝ)
    {step : ℝ} :
    course.step panel step = 0 ↔ step = 0 := by
  unfold Course.step
  split
  · have kinetic : 0 < 1 - course.speed ^ 2 := by
      nlinarith [timelike.forward, timelike.slow]
    have gravitational : 0 < 1 - 1 / course.radius :=
      one_sub_one_div_pos timelike.outside
    have ratio :
        0 ≤ step ^ 2 * (1 - course.speed ^ 2) / (1 - 1 / course.radius) := by
      positivity
    rw [properStep, Real.sqrt_eq_zero ratio, div_eq_zero_iff, mul_eq_zero,
      sq_eq_zero_iff]
    simp only [kinetic.ne', gravitational.ne', or_false]
  · rfl

/-- On a course, the clock runs forward with coordinate time. -/
theorem Course.step_nonneg
    (course : Course ℝ)
    (panel : Panel ℝ)
    {step : ℝ}
    (forward : 0 ≤ step) :
    0 ≤ course.step panel step := by
  unfold Course.step
  split
  · exact Real.sqrt_nonneg _
  · exact forward

end Orbit

namespace Observer

open Orbit

/-- Only for a time that is not negative is there a plan. -/
theorem exists_forward_of_plan
    {observer : Observer ℝ}
    {elapsed : Value ℝ}
    {panel : Panel ℝ}
    {plan : Course ℝ × Value ℝ}
    (planned : observer.plan elapsed panel = .ok plan) :
    ∃ seconds : Number ℝ,
      elapsed = .number seconds ∧ 0 ≤ seconds.value := by
  obtain ⟨course, step⟩ := plan
  obtain ⟨seconds, _, ⟨counted, later⟩, _⟩ := exists_of_plan planned
  refine ⟨seconds, ?_, by simpa [Number.less_iff] using later⟩
  cases elapsed with
  | number x =>
      cases counted
      rfl
  | none => cases counted
  | text characters => cases counted
  | list items => cases counted

/-- A turn leaves the clock as it is. -/
@[simp] theorem properTime_turnTo
    {α : Type}
    [Scalar α]
    (observer : Observer α)
    (view : Transform α)
    (panel : Panel α) :
    (observer.turnTo view panel).state.properTime = observer.properTime := by
  unfold turnTo
  dsimp only
  split
  · split <;> rfl
  · split <;> rfl

section Advance

variable {observer : Observer ℝ} {panel : Panel ℝ}
  {seconds step : Number ℝ}

/-- On a valid panel, an observer that moves on takes a course on which time
passes. -/
theorem exists_timelike_of_moved
    (valid : panel.Valid)
    (forward : 0 ≤ seconds.value)
    (moved : (observer.advance (.number seconds) panel).result = .ok step) :
    ∃ course, observer.course panel = .ok course ∧ course.Timelike := by
  cases moving : panel.isOn .observerMotion with
  | true =>
      obtain ⟨radius, degrees, _, beyond, found⟩ :=
        observer.course_eq_of_moving valid moving
      have outside : 1 < radius := by linarith
      have slow : orbitSpeed radius < 1 :=
        (orbitSpeed_lt_one_iff outside).2 beyond
      exact ⟨_, found, outside, (orbitSpeed_pos outside).le, slow⟩
  | false =>
      rcases lt_or_ge 1 observer.position.norm with outside | inside
      · have found :
            observer.course panel = restingCourse observer.position := by
          rw [Observer.course, if_neg (by simp [moving])]
        exact ⟨_, found.trans (restingCourse_eq outside), outside, le_rfl,
          zero_lt_one⟩
      · have stopped :=
          (advance_eq_error_iff valid forward).2 ⟨moving, inside, rfl⟩
        cases moved.symm.trans stopped

/-- An advance leaves the clock as it is exactly if no wall-clock time passes or
the time scale is zero. -/
theorem properTime_advance_eq_iff
    {scale : ℝ}
    (valid : panel.Valid)
    (forward : 0 ≤ seconds.value)
    (scaled : panel.quantity .timeScale = .real scale)
    (moved : (observer.advance (.number seconds) panel).result = .ok step) :
    (observer.advance (.number seconds) panel).state.properTime =
      observer.properTime ↔
      seconds.value = 0 ∨ scale = 0 := by
  obtain ⟨course, found, timelike⟩ :=
    exists_timelike_of_moved valid forward moved
  have followed :=
    (advance_of_plan_ok (plan_eq found timelike scaled forward)).2
  have added : (observer.advance (.number seconds) panel).state.properTime =
      observer.properTime + course.step panel (seconds.value * scale) :=
    congrArg Observer.properTime followed
  rw [added, add_eq_left]
  calc course.step panel (seconds.value * scale) = 0
    _ ↔ seconds.value * scale = 0 := timelike.step_eq_zero_iff panel
    _ ↔ seconds.value = 0 ∨ scale = 0 := mul_eq_zero

/-- An advance that gives a step of proper time moves the clock on by that step,
and never back. -/
theorem properTime_advance
    {elapsed : Value ℝ}
    (valid : panel.Valid)
    (moved : (observer.advance elapsed panel).result = .ok step) :
    0 ≤ step.value ∧
      (observer.advance elapsed panel).state.properTime =
        observer.properTime + step.value := by
  cases planned : observer.plan elapsed panel with
  | error fault =>
      rw [advance_of_plan_error planned] at moved
      cases moved
  | ok plan =>
      obtain ⟨seconds, rfl, forward⟩ := exists_forward_of_plan planned
      obtain ⟨scale, scaled, nonneg⟩ := valid.timeScale_eq
      obtain ⟨course, found, timelike⟩ :=
        exists_timelike_of_moved valid forward moved
      obtain ⟨stepped, followed⟩ :=
        advance_of_plan_ok (plan_eq found timelike scaled forward)
      cases moved.symm.trans stepped
      rw [followed]
      exact ⟨course.step_nonneg panel (mul_nonneg forward nonneg), rfl⟩

end Advance

end Observer

end BlackHoleScene
