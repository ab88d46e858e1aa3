import BlackHoleScene.Observer.Camera
import BlackHoleScene.Observer.Motion
import BlackHoleScene.Proofs.Control.Valid

/-!
# How an observer moves and turns

On a panel that holds scalars for its quantities, an advance either stops before
it touches the observer or carries out its whole plan. On a valid panel, a turn
either carries out the whole turn or, for want of a direction, leaves the
observer as it was.
-/

namespace BlackHoleScene

variable {α : Type} [Scalar α]

/-- A number that meets a scalar becomes one. -/
theorem Number.mul?_real
    (factor : Number α)
    (scale : α) :
    factor.mul? (.real scale) = factor.toScalar?.map fun x =>
      .real (x * scale) := by
  cases factor with
  | truth holds => rfl
  | real x => rfl
  | whole n =>
      simp only [mul?, integer?, toScalar?]
      cases (Scalar.ofInt? n : Option α) <;> rfl

/-- A number at a scalar scale is a scalar. -/
theorem Arithmetic.exists_real_of_times
    {factor : Number α}
    {scale : α}
    {product : Value α}
    (reached : times factor (.real scale) = .ok product) :
    ∃ x : α, product = .real x := by
  obtain ⟨number, multiplied, rfl⟩ := map_eq_ok_iff.1 reached
  rw [mul, Number.mul?_real] at multiplied
  cases converted : factor.toScalar? with
  | none => simp [converted, fail] at multiplied
  | some x =>
      simp only [converted, Option.map_some, Except.ok.injEq] at multiplied
      exact ⟨x * scale, by rw [← multiplied]⟩

namespace Orbit

/-- What a circular course is made of: an orbit slower than light, a phase and a
tilt. -/
theorem exists_of_circularCourse
    {properTime : α}
    {panel : Panel α}
    {course : Course α}
    (found : circularCourse properTime panel = .ok course) :
    ∃ r v rate s c inclination tilt,
      (panel.scalar .observerDistance = .ok r ∧
        circularSpeed (.real r) = .ok v ∧ ¬1.0 ≤ v) ∧
      (Arithmetic.div v r = .ok rate ∧
        Arithmetic.sin (properTime * rate) = .ok s ∧
          Arithmetic.cos (properTime * rate) = .ok c) ∧
      (Arithmetic.number (panel.quantity .orbitalInclination) =
        .ok inclination ∧
        Mat3.rotationY inclination = .ok tilt) ∧
      course =
        { radius := r
          speed := v
          placement? := some {
            position := tilt.apply ⟨c * r, s * r, 0.0⟩
            velocity := tilt.apply ⟨-s * v, c * v, 0.0⟩ } } := by
  obtain ⟨r, distance, fast⟩ := bind_eq_ok_iff.1 found
  obtain ⟨v, speed, checked⟩ := bind_eq_ok_iff.1 fast
  split at checked
  · cases checked
  · next slow =>
      obtain ⟨rate, isRate, turning⟩ := bind_eq_ok_iff.1 checked
      obtain ⟨s, sine, withSine⟩ := bind_eq_ok_iff.1 turning
      obtain ⟨c, cosine, withCosine⟩ := bind_eq_ok_iff.1 withSine
      obtain ⟨inclination, inclined, tilting⟩ := bind_eq_ok_iff.1 withCosine
      obtain ⟨tilt, tilted, placed⟩ := bind_eq_ok_iff.1 tilting
      cases placed
      exact ⟨r, v, rate, s, c, inclination, tilt, ⟨distance, speed, slow⟩,
        ⟨isRate, sine, cosine⟩, ⟨inclined, tilted⟩, rfl⟩

/-- A circular course prescribes a placement. -/
theorem exists_placement_of_circularCourse
    {properTime : α}
    {panel : Panel α}
    {course : Course α}
    (found : circularCourse properTime panel = .ok course) :
    ∃ placement, course.placement? = some placement := by
  obtain ⟨r, v, rate, s, c, inclination, tilt, _, _, _, rfl⟩ :=
    exists_of_circularCourse found
  exact ⟨_, rfl⟩

/-- The course of an observer that stays where it is prescribes none. -/
theorem placement_of_restingCourse
    {position : Vec3 α}
    {course : Course α}
    (found : restingCourse position = .ok course) :
    course.placement? = none := by
  obtain ⟨radius, _, placed⟩ := bind_eq_ok_iff.1 found
  cases placed
  rfl

end Orbit

namespace Observer

omit [Scalar α] in
@[simp] theorem place_orientation
    (observer : Observer α)
    (placement? : Option (Orbit.Placement α)) :
    (observer.place placement?).orientation = observer.orientation := by
  cases placement? <;> rfl

omit [Scalar α] in
@[simp] theorem place_properTime
    (observer : Observer α)
    (placement? : Option (Orbit.Placement α)) :
    (observer.place placement?).properTime = observer.properTime := by
  cases placement? <;> rfl

/-- The observer after a course was followed for a step of proper time. -/
def followed
    (observer : Observer α)
    (course : Orbit.Course α)
    (step : α) : Observer α :=
  { observer.place course.placement? with
    properTime := observer.properTime + step }

/-- What a plan is made of: a time that is not negative, at the time scale, the
course that the panel sets, and its step. -/
theorem exists_of_plan
    {observer : Observer α}
    {panel : Panel α}
    {elapsed step : Value α}
    {course : Orbit.Course α}
    (planned : observer.plan elapsed panel = .ok (course, step)) :
    ∃ seconds coordinateStep,
      (Arithmetic.number elapsed = .ok seconds ∧
        ¬seconds.Less (.real 0.0)) ∧
      Arithmetic.times seconds (panel.quantity .timeScale) =
        .ok coordinateStep ∧
      observer.course panel = .ok course ∧
      if panel.isOn .gravitationalTimeDilation then
        ∃ x,
          Orbit.dilatedStep coordinateStep (.real course.speed)
            (.real course.radius) = .ok x ∧
            step = .real x
      else step = coordinateStep := by
  obtain ⟨seconds, counted, checked⟩ := bind_eq_ok_iff.1 planned
  split at checked
  · cases checked
  · next later =>
      obtain ⟨coordinateStep, scaled, onCourse⟩ := bind_eq_ok_iff.1 checked
      obtain ⟨found, isCourse, stepped⟩ := bind_eq_ok_iff.1 onCourse
      split at stepped
      · next dilates =>
          obtain ⟨x, dilated, paired⟩ := bind_eq_ok_iff.1 stepped
          cases paired
          refine ⟨seconds, coordinateStep, ⟨counted, later⟩, scaled,
            isCourse, ?_⟩
          rw [if_pos dilates]
          exact ⟨x, dilated, rfl⟩
      · next steady =>
          cases stepped
          refine ⟨seconds, step, ⟨counted, later⟩, scaled, isCourse, ?_⟩
          rw [if_neg steady]

/-- For a time that is not negative, a plan is made of the course that the panel
sets. -/
theorem plan_of_later
    (observer : Observer α)
    {panel : Panel α}
    {seconds : Number α}
    {product : Value α}
    (scaled :
      Arithmetic.times seconds (panel.quantity .timeScale) = .ok product)
    (later : ¬seconds.Less (.real 0.0)) :
    observer.plan (.number seconds) panel =
      (do
        let course ← observer.course panel
        if panel.isOn .gravitationalTimeDilation then
          let step ←
            Orbit.dilatedStep product (.real course.speed) (.real course.radius)
          return (course, .real step)
        else return (course, product)) := by
  have counted :
      (Arithmetic.number (.number seconds) : Except (Fault α) (Number α)) =
        .ok seconds := rfl
  simp only [plan, counted, if_neg later, scaled, bind, Except.bind]

/-- A plan follows the course that the panel sets. -/
theorem course_of_plan
    {observer : Observer α}
    {panel : Panel α}
    {elapsed step : Value α}
    {course : Orbit.Course α}
    (planned : observer.plan elapsed panel = .ok (course, step)) :
    observer.course panel = .ok course := by
  obtain ⟨seconds, coordinateStep, _, _, found, _⟩ := exists_of_plan planned
  exact found

/-- On a panel of scalars, the planned step is a scalar. -/
theorem exists_real_of_plan
    {observer : Observer α}
    {elapsed step : Value α}
    {panel : Panel α}
    {course : Orbit.Course α}
    (measured : panel.Measured)
    (planned : observer.plan elapsed panel = .ok (course, step)) :
    ∃ x : α, step = .real x := by
  obtain ⟨scale, held⟩ := measured .timeScale
  obtain ⟨seconds, coordinateStep, _, scaled, _, stepped⟩ :=
    exists_of_plan planned
  split at stepped
  · obtain ⟨x, _, rfl⟩ := stepped
    exact ⟨x, rfl⟩
  · rw [stepped]
    rw [held] at scaled
    exact Arithmetic.exists_real_of_times scaled

/-- An advance without a plan leaves the observer as it was. -/
theorem advance_of_plan_error
    {observer : Observer α}
    {elapsed : Value α}
    {panel : Panel α}
    {fault : Fault α}
    (planned : observer.plan elapsed panel = .error fault) :
    observer.advance elapsed panel = .stopped observer fault := by
  simp [advance, planned]

/-- An advance with a plan follows its course. -/
theorem advance_of_plan_ok
    {observer : Observer α}
    {elapsed : Value α}
    {panel : Panel α}
    {course : Orbit.Course α}
    {x : α}
    (planned : observer.plan elapsed panel = .ok (course, .real x)) :
    (observer.advance elapsed panel).result = .ok (.real x) ∧
      (observer.advance elapsed panel).state = observer.followed course x := by
  have onClock : clockStep (.real x : Value α) = .ok (.real x, x) := rfl
  simp [advance, planned, onClock, followed]

/-- On a panel of scalars, an advance that stops leaves the observer as it was.
-/
theorem advance_state_of_error
    {observer : Observer α}
    {elapsed : Value α}
    {panel : Panel α}
    {fault : Fault α}
    (measured : panel.Measured)
    (stopped : (observer.advance elapsed panel).result = .error fault) :
    (observer.advance elapsed panel).state = observer := by
  cases planned : observer.plan elapsed panel with
  | error cause =>
      rw [advance_of_plan_error planned]
      rfl
  | ok planned' =>
      obtain ⟨course, step⟩ := planned'
      obtain ⟨x, rfl⟩ := exists_real_of_plan measured planned
      rw [(advance_of_plan_ok planned).1] at stopped
      cases stopped

/-- An advance never turns the camera. -/
theorem advance_orientation
    (observer : Observer α)
    (elapsed : Value α)
    (panel : Panel α) :
    (observer.advance elapsed panel).state.orientation =
      observer.orientation := by
  unfold advance
  split
  · rfl
  · dsimp only
    split
    · exact place_orientation observer _
    · exact place_orientation observer _

end Observer

/-- A vector that cannot be normalized has no direction. -/
theorem Vec3.exists_degenerate_of_normalize
    {subject : String}
    {v : Vec3 α}
    {fault : Fault α}
    (stopped : v.normalize subject = .error fault) :
    ∃ cause, fault = .degenerate cause := by
  unfold normalize Direction.checkLength at stopped
  split at stopped
  · cases stopped
    exact ⟨_, rfl⟩
  · cases stopped

/-- A frame that follows the motion is only refused for want of a direction. -/
theorem Camera.exists_degenerate_of_orbitBasis
    {position velocity : Vec3 α}
    {fault : Fault α}
    (stopped : orbitBasis position velocity = .error fault) :
    ∃ cause, fault = .degenerate cause := by
  unfold orbitBasis at stopped
  cases heading : velocity.normalize "velocity" with
  | error cause =>
      rw [heading] at stopped
      cases stopped
      exact Vec3.exists_degenerate_of_normalize heading
  | ok along =>
      rw [heading] at stopped
      cases second :
        (along.scale headingWeight - position).normalize "orbital y axis" with
      | error cause =>
          simp only [bind, Except.bind, second] at stopped
          cases stopped
          exact Vec3.exists_degenerate_of_normalize second
      | ok axisY =>
          cases third : (position.cross axisY).normalize "orbital z axis" with
          | error cause =>
              simp only [bind, Except.bind, second, third] at stopped
              cases stopped
              exact Vec3.exists_degenerate_of_normalize third
          | ok axisZ =>
              simp only [bind, Except.bind, second, third] at stopped
              cases stopped

namespace Observer

variable {observer : Observer α} {panel : Panel α} {view : Transform α}

/-- On an orbit, the camera turns relative to the frame that follows the
motion. -/
theorem turnTo_of_orbitBasis_ok
    {frame : Mat3 α}
    (moving : panel.isOn .observerMotion = true)
    (framed :
      Camera.orbitBasis observer.position observer.velocity = .ok frame) :
    observer.turnTo view panel =
      .done { observer with orientation := frame.mul (Camera.basisOfView view) }
        () := by
  simp [turnTo, moving, framed]

/-- Without such a frame the observer stays as it was. -/
theorem turnTo_of_orbitBasis_error
    {fault : Fault α}
    (moving : panel.isOn .observerMotion = true)
    (stopped :
      Camera.orbitBasis observer.position observer.velocity = .error fault) :
    observer.turnTo view panel = .stopped observer fault := by
  simp [turnTo, moving, stopped]

/-- An observer that is not on an orbit is put at rest behind the camera. -/
theorem turnTo_of_not_moving
    {distance : α}
    (resting : panel.isOn .observerMotion = false)
    (read : panel.scalar .observerDistance = .ok distance) :
    observer.turnTo view panel =
      .done
        { observer with
          orientation := Camera.basisOfView view
          position := Camera.positionBehind (Camera.basisOfView view) distance
          velocity := Vec3.zero }
        () := by
  simp [turnTo, resting, read]

/-- On a valid panel, a turn is only refused for want of a direction, and the
observer then stays as it was. -/
theorem turnTo_result_cases
    (valid : panel.Valid)
    (observer : Observer α)
    (view : Transform α) :
    (observer.turnTo view panel).result = .ok () ∨
      ∃ cause,
        observer.turnTo view panel = .stopped observer (.degenerate cause) := by
  cases moving : panel.isOn .observerMotion with
  | false =>
      obtain ⟨distance, _, read, _⟩ := valid.scalar_eq .observerDistance
      left
      rw [turnTo_of_not_moving moving read]
      rfl
  | true =>
      cases framed : Camera.orbitBasis observer.position observer.velocity with
      | ok frame =>
          left
          rw [turnTo_of_orbitBasis_ok moving framed]
          rfl
      | error fault =>
          obtain ⟨cause, rfl⟩ :=
            Camera.exists_degenerate_of_orbitBasis framed
          exact Or.inr ⟨cause, turnTo_of_orbitBasis_error moving framed⟩

end Observer

end BlackHoleScene
