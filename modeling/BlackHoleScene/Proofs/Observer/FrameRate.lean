import BlackHoleScene.Proofs.Observer.Rejection

/-!
# The clock at any frame rate

Over the real numbers, a step of proper time is the step of coordinate time at a
rate that depends on the radius, and on whether there is an orbit and dilation.
While time passes, an observer keeps its radius, so its clock moves on by the
whole of that time at this rate, in however many steps it passes:
`Observer.properTime_advanceAll`. The place on an orbit lags behind by a step,
since it is found from the reading of the clock before.
-/

namespace BlackHoleScene

namespace Orbit

/-- The speed that dilates time at a radius: that of the orbit, and none off it.
-/
noncomputable def dilatingSpeed (moving : Bool) (radius : ℝ) : ℝ :=
  if moving then orbitSpeed radius else 0

/-- Proper time for each unit of coordinate time at a radius, on an orbit or off
it, with dilation or without. -/
noncomputable def clockRate (moving dilates : Bool) (radius : ℝ) : ℝ :=
  if dilates then √((1 - dilatingSpeed moving radius ^ 2) / (1 - 1 / radius))
  else 1

/-- A step forward in time is dilated by a factor. -/
theorem properStep_eq_mul
    {step : ℝ}
    (forward : 0 ≤ step)
    (speed radius : ℝ) :
    properStep step speed radius =
      step * √((1 - speed ^ 2) / (1 - 1 / radius)) := by
  rw [properStep, mul_div_assoc, Real.sqrt_mul (sq_nonneg step),
    Real.sqrt_sq forward]

/-- On a course at the speed that dilates time there, the clock has its rate. -/
theorem Course.step_eq_mul
    {course : Course ℝ}
    {moving : Bool}
    (speed : course.speed = dilatingSpeed moving course.radius)
    (panel : Panel ℝ)
    {step : ℝ}
    (forward : 0 ≤ step) :
    course.step panel step =
      step *
        clockRate moving (panel.isOn .gravitationalTimeDilation)
          course.radius := by
  unfold Course.step clockRate
  split
  · rw [properStep_eq_mul forward, speed]
  · rw [mul_one]

end Orbit

/-- The time of several steps together. -/
noncomputable def totalTime (times : List (Number ℝ)) : ℝ :=
  (times.map Number.value).sum

theorem totalTime_concat (times : List (Number ℝ)) (last : Number ℝ) :
    totalTime (times ++ [last]) = totalTime times + last.value := by
  simp [totalTime]

namespace Observer

open Orbit

/-- Let times pass for the observer one after the other, up to one for which it
cannot move on. -/
def advanceAll
    {α : Type}
    [Scalar α]
    (observer : Observer α)
    (panel : Panel α)
    (times : List (Number α)) : Outcome α (Observer α) Unit :=
  times.foldl
    (fun reached seconds =>
      reached.andThen fun before () =>
        (before.advance (.number seconds) panel).andThen fun after _ =>
          .done after ())
    (.done observer ())

/-- After times that did not stop the observer, one more that does not stop it
only moves it on. -/
theorem advanceAll_concat
    {α : Type}
    [Scalar α]
    {observer : Observer α}
    {panel : Panel α}
    {times : List (Number α)}
    {last step : Number α}
    (reached : (observer.advanceAll panel times).result = .ok ())
    (moved :
      ((observer.advanceAll panel times).state.advance (.number last)
        panel).result = .ok step) :
    (observer.advanceAll panel (times ++ [last])).result = .ok () ∧
      (observer.advanceAll panel (times ++ [last])).state =
        ((observer.advanceAll panel times).state.advance (.number last)
          panel).state := by
  have longer :
      observer.advanceAll panel (times ++ [last]) =
        (observer.advanceAll panel times).andThen fun before () =>
          (before.advance (.number last) panel).andThen fun after _ =>
            .done after () := by
    rw [advanceAll, List.foldl_concat]
    rfl
  obtain ⟨result, state⟩ := Outcome.andThen_of_ok reached fun before () =>
    (before.advance (.number last) panel).andThen fun after _ => .done after ()
  rw [longer, result, state, Outcome.andThen_done]
  exact ⟨by rw [moved]; rfl, rfl⟩

/-- The radius that the course of an observer has: the distance of its orbit, or
off an orbit where it is. -/
noncomputable def courseRadius
    (observer : Observer ℝ)
    (moving : Bool)
    (distance : ℝ) : ℝ :=
  if moving then distance else observer.position.norm

section CourseAt

variable (observer : Observer ℝ) (moving : Bool) (distance degrees : ℝ)

@[simp] theorem courseAt_radius :
    (observer.courseAt moving distance degrees).radius =
      observer.courseRadius moving distance := by
  cases moving <;> rfl

theorem courseAt_speed :
    (observer.courseAt moving distance degrees).speed =
      dilatingSpeed moving
        (observer.courseAt moving distance degrees).radius := by
  cases moving <;> rfl

/-- An observer that follows its course keeps the radius of it. -/
theorem courseRadius_followed (step : ℝ) :
    (observer.followed (observer.courseAt moving distance degrees)
        step).courseRadius moving distance =
      observer.courseRadius moving distance := by
  cases moving <;> rfl

/-- An observer that follows its orbit is where the orbit is at the reading of
its clock. -/
theorem followed_courseAt_of_moving (step : ℝ) :
    let reached :=
      observer.followed (observer.courseAt true distance degrees) step
    let phase := observer.properTime * (orbitSpeed distance / distance)
    let orbit := onCircle distance phase (.tiltY degrees)
    reached.position = orbit.position ∧ reached.velocity = orbit.velocity :=
  ⟨rfl, rfl⟩

/-- Forward in time, an observer is not rejected beyond the light orbit, or off
an orbit beyond the horizon. -/
theorem not_rejected_zero_iff :
    ¬Rejected 0 moving distance observer.position ↔
      (if moving then 3 / 2 else 1) <
        observer.courseRadius moving distance := by
  cases moving <;> simp [Rejected, courseRadius, Scalar.oneAndHalf_real]

end CourseAt

section Accepted

variable
  {observer : Observer ℝ}
  {panel : Panel ℝ}
  {distance scale degrees : Number ℝ}
  (placed : panel.quantity .observerDistance = .number distance)
  (scaled : panel.quantity .timeScale = .number scale)
  (inclined : panel.quantity .orbitalInclination = .number degrees)
  (accepted :
    ¬Rejected 0 (panel.isOn .observerMotion) distance.value observer.position)

include placed scaled inclined accepted in
/-- An observer that is not rejected follows its course, and its clock moves on
at its rate. -/
theorem advance_of_accepted
    {seconds : Number ℝ}
    (nonneg : 0 ≤ scale.value)
    (forward : 0 ≤ seconds.value) :
    let moving := panel.isOn .observerMotion
    let rate :=
      clockRate moving (panel.isOn .gravitationalTimeDilation)
        (observer.courseRadius moving distance.value)
    (∃ step, (observer.advance (.number seconds) panel).result = .ok step) ∧
      (observer.advance (.number seconds) panel).state =
        observer.followed
          (observer.courseAt moving distance.value degrees.value)
          (scale.value * seconds.value * rate) := by
  intro moving rate
  have acceptedLater :
      ¬Rejected seconds.value moving distance.value observer.position :=
    fun rejected => accepted
      (rejected.imp_left fun negative => absurd negative forward.not_gt)
  obtain ⟨_, _, step, moved, value, followed⟩ :=
    exists_step_of_not_rejected placed scaled inclined acceptedLater
  refine ⟨⟨step, moved⟩, ?_⟩
  rw [followed, value, Course.step_eq_mul (courseAt_speed _ _ _ _) panel
    (mul_nonneg forward nonneg), courseAt_radius, mul_comm seconds.value]

include placed scaled inclined accepted in
/-- An observer that is not rejected is not stopped by times forward, however
many. Its clock moves on by the whole of them at its rate, and the radius of its
course stays. -/
theorem advanceAll_of_accepted
    (nonneg : 0 ≤ scale.value)
    {times : List (Number ℝ)}
    (forward : ∀ seconds ∈ times, 0 ≤ seconds.value) :
    let moving := panel.isOn .observerMotion
    let radius := observer.courseRadius moving distance.value
    let reached := observer.advanceAll panel times
    reached.result = .ok () ∧
      reached.state.courseRadius moving distance.value = radius ∧
      reached.state.properTime =
        observer.properTime +
          scale.value * totalTime times *
            clockRate
              moving (panel.isOn .gravitationalTimeDilation) radius := by
  intro moving radius reached
  induction times using List.reverseRecOn with
  | nil =>
      exact ⟨rfl, rfl,
        by simp [reached, advanceAll, Outcome.done, totalTime]⟩
  | append_singleton times last ih =>
      obtain ⟨earlier, later⟩ := List.forall_mem_append.1 forward
      obtain ⟨unstopped, sameRadius, clock⟩ := ih earlier
      let before := (observer.advanceAll panel times).state
      have acceptedBefore :
          ¬Rejected 0 moving distance.value before.position := by
        rw [not_rejected_zero_iff] at accepted ⊢
        rwa [sameRadius]
      obtain ⟨⟨step, moved⟩, followed⟩ :=
        advance_of_accepted placed scaled inclined acceptedBefore nonneg
          (later last List.mem_cons_self)
      obtain ⟨result, state⟩ := advanceAll_concat unstopped moved
      refine ⟨result, ?_, ?_⟩
      · rw [state, followed, courseRadius_followed, sameRadius]
      · rw [state, followed]
        change before.properTime + _ = _
        rw [clock, sameRadius, totalTime_concat]
        ring

end Accepted

/-- Forward in time, the clock of an observer that is not rejected moves on by a
rate times the time that passes, however it is split up. On an orbit, the place
is that of the clock one time before. -/
theorem properTime_advanceAll
    {observer : Observer ℝ}
    {panel : Panel ℝ}
    {distance scale degrees : Number ℝ}
    (placed : panel.quantity .observerDistance = .number distance)
    (scaled : panel.quantity .timeScale = .number scale)
    (inclined : panel.quantity .orbitalInclination = .number degrees)
    (nonneg : 0 ≤ scale.value)
    (accepted :
      ¬Rejected 0 (panel.isOn .observerMotion) distance.value
        observer.position)
    {times : List (Number ℝ)}
    (forward : ∀ seconds ∈ times, 0 ≤ seconds.value) :
    let moving := panel.isOn .observerMotion
    let radius := if moving then distance.value else observer.position.norm
    let rate := clockRate moving (panel.isOn .gravitationalTimeDilation) radius
    let reached := observer.advanceAll panel times
    (reached.result = .ok () ∧
      reached.state.properTime =
        observer.properTime + scale.value * totalTime times * rate) ∧
    (∀ others : List (Number ℝ),
      (∀ seconds ∈ others, 0 ≤ seconds.value) →
      totalTime others = totalTime times →
        (observer.advanceAll panel others).state.properTime =
          reached.state.properTime) ∧
    (moving = true → ∀ last : Number ℝ, 0 ≤ last.value →
      let phase := reached.state.properTime * (orbitSpeed radius / radius)
      let orbit := onCircle radius phase (.tiltY degrees.value)
      let next := (observer.advanceAll panel (times ++ [last])).state
      next.position = orbit.position ∧ next.velocity = orbit.velocity) := by
  intro moving radius rate reached
  obtain ⟨unstopped, sameRadius, clock⟩ :=
    advanceAll_of_accepted placed scaled inclined accepted nonneg forward
  refine ⟨⟨unstopped, clock⟩, ?split, ?orbit⟩
  case split =>
    intro others forwardToo same
    obtain ⟨_, _, clockToo⟩ :=
      advanceAll_of_accepted placed scaled inclined accepted nonneg forwardToo
    rw [clock, clockToo, same]
  case orbit =>
    intro orbits last later phase orbit next
    have acceptedBefore :
        ¬Rejected 0 moving distance.value reached.state.position := by
      rw [not_rejected_zero_iff] at accepted ⊢
      rwa [sameRadius]
    obtain ⟨⟨step, moved⟩, followed⟩ :=
      advance_of_accepted placed scaled inclined acceptedBefore nonneg later
    have state : next = (reached.state.advance (.number last) panel).state :=
      (advanceAll_concat unstopped moved).2
    have onOrbit : panel.isOn .observerMotion = true := orbits
    have distant : radius = distance.value := if_pos orbits
    rw [state, followed, onOrbit]
    simp only [orbit, phase, distant]
    exact followed_courseAt_of_moving
      reached.state distance.value degrees.value _

/-- A second in two halves, the second of them in two quarters, is a second on
the clock of the observer at the start, and leaves it where its orbit was when
the last quarter began. -/
theorem properTime_advanceAll_quarters :
    let panel : Panel ℝ := .initial
    let earlier : List (Number ℝ) := [.real (1 / 2), .real (1 / 4)]
    let times : List (Number ℝ) := earlier ++ [.real (1 / 4)]
    let before := (start.advanceAll panel earlier).state
    let reached := (start.advanceAll panel times).state
    let phase := before.properTime * (orbitSpeed 11.0 / 11.0)
    (0 ≤ (Number.real 1.0).value ∧
      (∀ seconds ∈ times, 0 ≤ seconds.value) ∧
        ¬Rejected 0 (panel.isOn .observerMotion) 11.0
          (start : Observer ℝ).position) ∧
      (start.advanceAll panel [.whole 1]).state.properTime =
        reached.properTime ∧
      reached.position = (onCircle 11.0 phase (.tiltY (-10.0))).position := by
  intro panel earlier times before reached phase
  have placed : panel.quantity .observerDistance = .number (.real 11.0) := rfl
  have scaled : panel.quantity .timeScale = .number (.real 1.0) := rfl
  have inclined :
      panel.quantity .orbitalInclination = .number (.real (-10.0)) := rfl
  have nonneg : 0 ≤ (Number.real 1.0).value := by norm_num
  have quarter : (0 : ℝ) ≤ (Number.real (1 / 4)).value := by norm_num
  have forward : ∀ seconds ∈ earlier, 0 ≤ seconds.value := by
    simp only [earlier, List.forall_mem_cons]
    exact ⟨by norm_num, quarter, by simp⟩
  have forwardToo : ∀ seconds ∈ times, 0 ≤ seconds.value :=
    List.forall_mem_append.2 ⟨forward, by simp⟩
  have accepted :
      ¬Rejected 0 (panel.isOn .observerMotion) 11.0
        (start : Observer ℝ).position :=
    (not_rejected_zero_iff start true 11.0).2 (by norm_num [courseRadius])
  have second : totalTime [.whole 1] = totalTime times := by
    norm_num [totalTime, times, earlier, Number.value]
  obtain ⟨_, split, _⟩ :=
    properTime_advanceAll placed scaled inclined nonneg accepted forwardToo
  obtain ⟨_, _, orbit⟩ :=
    properTime_advanceAll placed scaled inclined nonneg accepted forward
  refine ⟨⟨nonneg, forwardToo, accepted⟩, split [.whole 1] ?_ second,
    ?_⟩
  · simp [Number.value]
  · exact (orbit rfl (.real (1 / 4)) quarter).1

end Observer

end BlackHoleScene
