import BlackHoleScene.Proofs.Observer.Advance

/-!
# Advances are all or nothing

Whatever scalars the panel holds, infinite and undefined ones included, an
advance that stops has changed nothing, and one that does not writes the clock
and, on an orbit, place and velocity. What it writes on an orbit depends on the
observer by the reading of its clock alone: `Observer.advance_atomic`.
-/

namespace BlackHoleScene

variable {α : Type} [Scalar α]

namespace Observer

open Orbit

section Plan

variable {observer : Observer α} {elapsed step : Value α} {panel : Panel α}
  {course : Course α}

/-- Off an orbit, the course leaves the observer where it is. -/
theorem place_of_resting
    (resting : panel.isOn .observerMotion = false)
    (planned : observer.plan elapsed panel = .ok (course, step)) :
    observer.place course.placement? = observer := by
  have onCourse : restingCourse observer.position = .ok course :=
    (if_neg (by simp [resting])).symm.trans (course_of_plan planned)
  rw [placement_of_restingCourse onCourse]
  rfl

/-- On an orbit, the course places every observer alike. -/
theorem place_of_moving
    (moving : panel.isOn .observerMotion = true)
    (planned : observer.plan elapsed panel = .ok (course, step))
    (other : Observer α) :
    (other.place course.placement?).position =
      (observer.place course.placement?).position ∧
      (other.place course.placement?).velocity =
        (observer.place course.placement?).velocity := by
  have onCourse : circularCourse observer.properTime panel = .ok course :=
    (if_pos moving).symm.trans (course_of_plan planned)
  obtain ⟨placement, placed⟩ := exists_placement_of_circularCourse onCourse
  rw [placed]
  exact ⟨rfl, rfl⟩

/-- On an orbit, a plan depends on the observer by the reading of its clock. -/
theorem plan_congr
    (moving : panel.isOn .observerMotion = true)
    {other : Observer α}
    (sameTime : other.properTime = observer.properTime) :
    other.plan elapsed panel = observer.plan elapsed panel := by
  have sameCourse : other.course panel = observer.course panel := by
    rw [course, course, if_pos moving, if_pos moving, sameTime]
  simp only [plan, sameCourse]

end Plan

/-- On a panel of scalars, an advance that stops changes nothing, and any other
adds its step to the clock. On an orbit, step, place and velocity depend on the
observer by its clock alone. -/
theorem advance_atomic
    {panel : Panel α}
    (measured : panel.Measured)
    (observer : Observer α)
    (elapsed : Value α) :
    let after := observer.advance elapsed panel
    (∀ fault, after.result = .error fault → after.state = observer) ∧
      (∀ step, after.result = .ok step →
        ∃ x : α,
          step = .real x ∧
            after.state.properTime = observer.properTime + x ∧
            after.state.orientation = observer.orientation ∧
            (panel.isOn .observerMotion = false →
              after.state.position = observer.position ∧
                after.state.velocity = observer.velocity)) ∧
      (panel.isOn .observerMotion = true → ∀ other : Observer α,
        other.properTime = observer.properTime →
          (other.advance elapsed panel).result = after.result ∧
            ∀ step, after.result = .ok step →
              (other.advance elapsed panel).state.position =
                after.state.position ∧
                (other.advance elapsed panel).state.velocity =
                  after.state.velocity) := by
  intro after
  cases planned : observer.plan elapsed panel with
  | error fault =>
      have stopped : after = .stopped observer fault :=
        advance_of_plan_error planned
      rw [stopped]
      refine ⟨fun _ _ => rfl, ?fields, ?independent⟩
      case fields =>
        intro step reached
        cases reached
      case independent =>
        intro moving other sameTime
        rw [advance_of_plan_error ((plan_congr moving sameTime).trans planned)]
        refine ⟨rfl, fun step reached => ?_⟩
        cases reached
  | ok plan =>
      obtain ⟨course, step⟩ := plan
      obtain ⟨x, rfl⟩ := exists_real_of_plan measured planned
      obtain ⟨reached, followed⟩ : after.result = .ok (.real x) ∧
        after.state = observer.followed course x := advance_of_plan_ok planned
      rw [reached, followed]
      refine ⟨?stops, ?fields, ?independent⟩
      case stops =>
        intro fault stopped
        cases stopped
      case fields =>
        intro step isStep
        cases isStep
        refine ⟨x, rfl, rfl, place_orientation observer _,
          fun resting => ?_⟩
        rw [Observer.followed, place_of_resting resting planned]
        exact ⟨rfl, rfl⟩
      case independent =>
        intro moving other sameTime
        obtain ⟨otherReached, otherFollowed⟩ :=
          advance_of_plan_ok ((plan_congr moving sameTime).trans planned)
        rw [otherReached, otherFollowed]
        exact ⟨rfl, fun _ _ => place_of_moving moving planned other⟩

/-- At an infinite inclination, an advance stops after it found the orbit, and
leaves the observer as it was. -/
theorem advance_atomic_infinitely_inclined :
    let panel : Panel Float :=
      Panel.initial.assign (.quantity .orbitalInclination) (.real (1.0 / 0.0))
    panel.Measured ∧
      ∃ fault,
        (start.advance (.real 1.0) panel).result = .error fault ∧
          (start.advance (.real 1.0) panel).state = start := by
  intro panel
  have measured : panel.Measured := by
    intro which
    cases which <;> exact ⟨_, rfl⟩
  obtain ⟨fault, stopped⟩ :
      ∃ fault, (start.advance (.real 1.0) panel).result = .error fault :=
    exists_error_of_isOk_eq_false (by decide +kernel)
  exact ⟨measured, fault, stopped,
    (advance_atomic measured start (.real 1.0)).1 fault stopped⟩

end Observer

end BlackHoleScene
