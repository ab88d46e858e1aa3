import BlackHoleScene.Proofs.Observer.Regular

/-!
# Observers at the horizon

On a valid panel, an advance for a time that is not negative stops only at the
horizon, and never on an orbit: `Observer.advance_eq_error_iff`. A turn puts an
observer off its orbit at the distance of the panel times the length of the
third axis of its camera, wherever that is: `Observer.norm_position_turnTo`.
-/

namespace BlackHoleScene

namespace Orbit

/-- There is no course for an observer that stays at the horizon or inside it.
-/
theorem restingCourse_of_inside
    {position : Vec3 ℝ}
    (inside : position.norm ≤ 1) :
    restingCourse position =
      .error (.domain (.insideHorizon (.real position.norm))) := by
  have refused : radiusOutside (.real position.norm) =
      .error (.domain (.insideHorizon (.real position.norm))) :=
    radiusOutside_of_inside inside
  simp only [restingCourse, refused, bind, Except.bind]

end Orbit

namespace Observer

open Orbit

/-- Without a course there is no plan. -/
theorem plan_of_course_error
    {observer : Observer ℝ}
    {panel : Panel ℝ}
    {seconds : Number ℝ}
    {scale : ℝ}
    {fault : Fault ℝ}
    (missing : observer.course panel = .error fault)
    (scaled : panel.quantity .timeScale = .real scale)
    (forward : 0 ≤ seconds.value) :
    observer.plan (.number seconds) panel = .error fault := by
  rw [observer.plan_of_forward (Arithmetic.times_real scaled) forward, missing]
  rfl

section Panel

variable {observer : Observer ℝ} {panel : Panel ℝ}

/-- An advance stops exactly for an observer off its orbit that is at the
horizon or inside it. -/
theorem advance_eq_error_iff
    {seconds : Number ℝ}
    {fault : Fault ℝ}
    (valid : panel.Valid)
    (forward : 0 ≤ seconds.value) :
    (observer.advance (.number seconds) panel).result = .error fault ↔
      panel.isOn .observerMotion = false ∧ observer.position.norm ≤ 1 ∧
        fault = .domain (.insideHorizon (.real observer.position.norm)) := by
  obtain ⟨scale, scaled, _⟩ := valid.timeScale_eq
  cases moving : panel.isOn .observerMotion with
  | true =>
      obtain ⟨radius, degrees, _, beyond, found⟩ :=
        observer.course_eq_of_moving valid moving
      have outside : 1 < radius := by linarith
      have slow : orbitSpeed radius < 1 :=
        (orbitSpeed_lt_one_iff outside).2 beyond
      obtain ⟨step, moved, _⟩ :=
        advance_eq
          found ⟨outside, (orbitSpeed_pos outside).le, slow⟩ scaled forward
      simp [moved]
  | false =>
      have course :
          observer.course panel = restingCourse observer.position := by
        rw [Observer.course, if_neg (by simp [moving])]
      rcases lt_or_ge 1 observer.position.norm with outside | inside
      · have found := course.trans (restingCourse_eq outside)
        obtain ⟨step, moved, _⟩ :=
          advance_eq found ⟨outside, le_rfl, zero_lt_one⟩ scaled forward
        simp [moved, outside]
      · have missing := course.trans (restingCourse_of_inside inside)
        rw [advance_of_plan_error (plan_of_course_error missing scaled forward)]
        simp [Outcome.stopped, inside, eq_comm]

/-- On its orbit, an observer that moved on is at the distance of the panel. -/
theorem norm_position_of_moved
    {elapsed : Value ℝ}
    {step : Number ℝ}
    {distance : ℝ}
    (valid : panel.Valid)
    (moving : panel.isOn .observerMotion = true)
    (read : panel.scalar .observerDistance = .ok distance)
    (moved : (observer.advance elapsed panel).result = .ok step) :
    (observer.advance elapsed panel).state.position.norm = distance := by
  obtain ⟨radius, degrees, isDistance, beyond, found⟩ :=
    observer.course_eq_of_moving valid moving
  cases read.symm.trans isDistance
  cases planned : observer.plan elapsed panel with
  | error fault =>
      rw [advance_of_plan_error planned] at moved
      cases moved
  | ok plan =>
      obtain ⟨course, _⟩ := plan
      obtain ⟨x, rfl⟩ := exists_real_of_plan valid.measured planned
      cases found.symm.trans (course_of_plan planned)
      rw [(advance_of_plan_ok planned).2]
      exact norm_position_onCircle (by linarith)
        (Mat3.orthonormal_tiltY degrees) _

/-- After a turn, an observer on its orbit is where it was, and one off its
orbit is at the distance of the panel times the length of the third axis of its
camera. -/
theorem norm_position_turnTo
    {distance : ℝ}
    (valid : panel.Valid)
    (read : panel.scalar .observerDistance = .ok distance)
    (view : Transform ℝ) :
    (observer.turnTo view panel).state.position.norm =
      if panel.isOn .observerMotion then observer.position.norm
      else distance * (Camera.basisOfView view).colZ.norm := by
  cases moving : panel.isOn .observerMotion with
  | true =>
      cases framed : Camera.orbitBasis observer.position observer.velocity with
      | error fault =>
          rw [turnTo_of_orbitBasis_error moving framed]
          rfl
      | ok frame =>
          rw [turnTo_of_orbitBasis_ok moving framed]
          rfl
  | false =>
      obtain ⟨_, isDistance, beyond⟩ := valid.distance_eq
      cases read.symm.trans isDistance
      rw [turnTo_of_not_moving moving read]
      exact Camera.norm_positionBehind_eq _ (by linarith)

end Panel

end Observer

end BlackHoleScene
