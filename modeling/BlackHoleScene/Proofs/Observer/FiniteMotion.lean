import BlackHoleScene.Proofs.Observer.Advance
import BlackHoleScene.Proofs.Scalar.IeeeDouble

/-!
# Finite motion

On a valid panel, an advance keeps place and velocity finite, whatever time it
is told has elapsed. The clock alone takes in what is not finite: only a time
below zero is refused, an undefined time is not below zero, and no later
operation makes it, or an infinite one, finite again. So the clock shows every
such time that was not refused: `Observer.advance_finite`.
-/

namespace BlackHoleScene

open Scalar

section Generic

variable {α : Type} [Scalar α]

/-- All coordinates are finite. -/
structure Vec3.Finite (v : Vec3 α) : Prop where
  x : isFinite v.x = true
  y : isFinite v.y = true
  z : isFinite v.z = true

/-- Place, velocity and clock are finite. -/
structure Observer.Finite (observer : Observer α) : Prop where
  position : observer.position.Finite
  velocity : observer.velocity.Finite
  properTime : isFinite observer.properTime = true

/-- The step of proper time that a course takes for a step of coordinate time,
as it comes out of the arithmetic of the scalars. -/
def Orbit.Course.computedStep
    (course : Course α)
    (panel : Panel α)
    (step : α) : α :=
  if panel.isOn .gravitationalTimeDilation then
    Scalar.sqrt
      (step * step * (1.0 - course.speed * course.speed) /
        (1.0 - 1.0 / course.radius))
  else step

/-- Scalars are in order as numbers if they are. -/
theorem Number.less_real_iff {x y : α} : (real x).Less (real y) ↔ x < y := by
  simp only [Less, compare?]
  split_ifs with below <;> simp [below]

namespace Arithmetic

theorem div_eq_ok_iff {x y z : α} :
    div x y = .ok z ↔ ¬Same y 0.0 ∧ x / y = z := by
  unfold div
  split <;> simp [fail, *]

theorem sqrt_eq_ok_iff {x y : α} :
    sqrt x = .ok y ↔ ¬x < 0.0 ∧ Scalar.sqrt x = y := by
  unfold sqrt
  split <;> simp [fail, *]

theorem sin_eq_ok_iff {x y : α} :
    sin x = .ok y ↔ ¬IsInfinite x ∧ Scalar.sin x = y := by
  unfold sin
  split <;> simp [fail, *]

theorem cos_eq_ok_iff {x y : α} :
    cos x = .ok y ↔ ¬IsInfinite x ∧ Scalar.cos x = y := by
  unfold cos
  split <;> simp [fail, *]

end Arithmetic

/-- A scalar that is neither infinite nor undefined is finite. -/
theorem Scalar.finite_of_defined
    {x : α}
    (bounded : ¬IsInfinite x)
    (defined : ¬IsUndefined x) :
    isFinite x = true :=
  Decidable.byContradiction fun infinite => bounded ⟨infinite, defined⟩

variable [IeeeScalar α]

/-! ### Turns -/

namespace Arithmetic

section Angle

variable {x y : α} (defined : ¬IsUndefined x)

include defined

/-- The sine of an angle is found only if that is finite. -/
theorem withinOne_of_sin (found : sin x = .ok y) : WithinOne y := by
  obtain ⟨bounded, rfl⟩ := sin_eq_ok_iff.1 found
  exact IeeeScalar.withinOne_sin (finite_of_defined bounded defined)

theorem withinOne_of_cos (found : cos x = .ok y) : WithinOne y := by
  obtain ⟨bounded, rfl⟩ := cos_eq_ok_iff.1 found
  exact IeeeScalar.withinOne_cos (finite_of_defined bounded defined)

end Angle

end Arithmetic

namespace Mat3

/-- A turn about the y axis keeps a vector of the plane of the first two axes
finite. -/
theorem finite_apply_turnY
    {c s x y : α}
    (cosine : WithinOne c)
    (sine : WithinOne s)
    (finiteX : isFinite x = true)
    (finiteY : isFinite y = true) :
    ((turnY c s).apply ⟨x, y, 0.0⟩).Finite := by
  have zero : isFinite (0.0 : α) = true :=
    IeeeScalar.finite_of_withinOne IeeeScalar.withinOne_zero
  have finiteS : isFinite s = true := IeeeScalar.finite_of_withinOne sine
  have finiteC : isFinite c = true := IeeeScalar.finite_of_withinOne cosine
  have noX : Same (x * 0.0) 0.0 := IeeeScalar.mul_zero finiteX
  have noY : Same (y * 0.0) 0.0 := IeeeScalar.mul_zero finiteY
  refine ⟨?_, ?_, ?_⟩
  · change isFinite (x * c + y * 0.0 + 0.0 * s) = true
    have along : isFinite (x * c) = true :=
      IeeeScalar.finite_mul_of_right finiteX cosine
    exact IeeeScalar.finite_add_zero (IeeeScalar.finite_add_zero along noY)
      (IeeeScalar.zero_mul finiteS)
  · change isFinite (x * 0.0 + y * 1.0 + 0.0 * 0.0) = true
    have along : isFinite (y * 1.0) = true :=
      IeeeScalar.finite_mul_of_right finiteY IeeeScalar.withinOne_one
    exact IeeeScalar.finite_add_zero (IeeeScalar.finite_zero_add noX along)
      (IeeeScalar.mul_zero zero)
  · change isFinite (x * -s + y * 0.0 + 0.0 * c) = true
    have along : isFinite (x * -s) = true :=
      IeeeScalar.finite_mul_of_right finiteX (IeeeScalar.withinOne_neg sine)
    exact IeeeScalar.finite_add_zero (IeeeScalar.finite_add_zero along noY)
      (IeeeScalar.zero_mul finiteC)

/-- A turn by a finite angle is found with its cosine and sine within one. -/
theorem exists_turnY_of_rotationY
    {degrees : α}
    {turn : Mat3 α}
    (finite : isFinite degrees = true)
    (found : rotationY (.real degrees) = .ok turn) :
    ∃ c s, WithinOne c ∧ WithinOne s ∧ turn = turnY c s := by
  have defined : ¬IsUndefined (radians degrees) :=
    IeeeScalar.defined_mul finite IeeeScalar.finite_radian
  obtain ⟨⟨c, s⟩, both, turned⟩ := bind_eq_ok_iff.1 found
  obtain ⟨x, read, withCosine⟩ := bind_eq_ok_iff.1 both
  cases read
  obtain ⟨c', cosine, withSine⟩ := bind_eq_ok_iff.1 withCosine
  obtain ⟨s', sine, paired⟩ := bind_eq_ok_iff.1 withSine
  cases paired
  cases turned
  exact ⟨c, s, Arithmetic.withinOne_of_cos defined cosine,
    Arithmetic.withinOne_of_sin defined sine, rfl⟩

end Mat3

/-! ### Orbits -/

namespace Orbit

omit [IeeeScalar α] in
/-- A radius outside the horizon is finite and above one. -/
theorem radiusOutside_real_eq_ok_iff {radius r : α} :
    radiusOutside (.real radius) = .ok r ↔
      radius = r ∧ isFinite radius = true ∧ ¬radius ≤ horizonRadius := by
  have read :
      (Arithmetic.scalar (.real radius) : Except (Fault α) α) = .ok radius :=
    rfl
  simp only [radiusOutside, read, bind, Except.bind]
  split
  · next refused =>
      simp only [reduceCtorEq, false_iff]
      rintro ⟨_, finite, above⟩
      exact refused.elim (fun infinite => infinite finite) above
  · next accepted =>
      simp only [not_or, Decidable.not_not] at accepted
      simp [accepted]

/-- The speed on an orbit slower than light is within one, and its radius
outside the horizon. -/
theorem withinOne_of_circularSpeed
    {radius speed : α}
    (found : circularSpeed (.real radius) = .ok speed)
    (slow : ¬1.0 ≤ speed) :
    WithinOne speed ∧ isFinite radius = true ∧ ¬radius ≤ 1.0 := by
  obtain ⟨r, outside, rooted⟩ := bind_eq_ok_iff.1 found
  obtain ⟨rfl, finite, above⟩ := radiusOutside_real_eq_ok_iff.1 outside
  obtain ⟨root, isRoot, divided⟩ := bind_eq_ok_iff.1 rooted
  obtain ⟨notNegative, rfl⟩ := Arithmetic.sqrt_eq_ok_iff.1 isRoot
  obtain ⟨nonzero, rfl⟩ := Arithmetic.div_eq_ok_iff.1 divided
  have one : isFinite (1.0 : α) = true :=
    IeeeScalar.finite_of_withinOne IeeeScalar.withinOne_one
  have defined : ¬IsUndefined (2.0 * (radius - 1.0)) :=
    IeeeScalar.defined_double (IeeeScalar.defined_sub finite one)
  have rootNonneg : 0.0 ≤ Scalar.sqrt (2.0 * (radius - 1.0)) :=
    IeeeScalar.sqrt_nonneg defined notNegative
  have nonneg := IeeeScalar.one_div_nonneg rootNonneg nonzero
  exact ⟨IeeeScalar.withinOne_of_below nonneg slow, finite, above⟩

/-- On a valid panel, the place and the velocity on an orbit are finite at every
finite reading of the clock. -/
theorem finite_of_circularCourse
    {panel : Panel α}
    {properTime : α}
    {course : Course α}
    (valid : panel.Valid)
    (finite : isFinite properTime = true)
    (found : circularCourse properTime panel = .ok course) :
    ∃ placement,
      course.placement? = some placement ∧
        placement.position.Finite ∧ placement.velocity.Finite := by
  obtain ⟨degrees, inclined, finiteDegrees, _⟩ :=
    valid.quantity_eq .orbitalInclination
  obtain ⟨r, v, rate, s, c, inclination, tilt, ⟨_, isSpeed, slow⟩,
    ⟨isRate, isSine, isCosine⟩, ⟨read, turned⟩, rfl⟩ :=
    exists_of_circularCourse found
  obtain ⟨withinV, finiteR, above⟩ :=
    withinOne_of_circularSpeed isSpeed slow
  have finiteV : isFinite v = true := IeeeScalar.finite_of_withinOne withinV
  obtain ⟨_, rfl⟩ := Arithmetic.div_eq_ok_iff.1 isRate
  have defined : ¬IsUndefined (properTime * (v / r)) :=
    IeeeScalar.defined_mul finite (IeeeScalar.finite_div finiteV finiteR above)
  have sine : WithinOne s := Arithmetic.withinOne_of_sin defined isSine
  have cosine : WithinOne c := Arithmetic.withinOne_of_cos defined isCosine
  rw [inclined] at read
  cases read
  obtain ⟨c', s', cosine', sine', rfl⟩ :=
    Mat3.exists_turnY_of_rotationY finiteDegrees turned
  refine ⟨_, rfl, Mat3.finite_apply_turnY cosine' sine' ?_ ?_,
    Mat3.finite_apply_turnY cosine' sine' ?_ ?_⟩
  · exact IeeeScalar.finite_mul_of_left cosine finiteR
  · exact IeeeScalar.finite_mul_of_left sine finiteR
  · exact IeeeScalar.finite_mul_of_left (IeeeScalar.withinOne_neg sine) finiteV
  · exact IeeeScalar.finite_mul_of_left cosine finiteV

omit [IeeeScalar α] in
/-- The dilated step of scalars is a root, where there is one. -/
theorem eq_of_dilatedStep
    {step speed radius dilated : α}
    (found :
      dilatedStep (.real step) (.real speed) (.real radius) = .ok dilated) :
    dilated =
      Scalar.sqrt
        (step * step * (1.0 - speed * speed) / (1.0 - 1.0 / radius)) := by
  have scalars : dilatedStep (.real step) (.real speed) (.real radius) = (do
      let r ← radiusOutside (.real radius)
      if (Number.real 1.0).AtMost (.real speed) then
        .error (.domain (.notBelowLightSpeed (.real speed) (.real radius)))
      else
        let gravitational := 1.0 - (← Arithmetic.div 1.0 r)
        Arithmetic.sqrt
          (← Arithmetic.div (step * step * (1.0 - speed * speed))
            gravitational)) := rfl
  rw [scalars] at found
  obtain ⟨r, outside, checked⟩ := bind_eq_ok_iff.1 found
  obtain ⟨rfl, _⟩ := radiusOutside_real_eq_ok_iff.1 outside
  split at checked
  · cases checked
  · obtain ⟨inverse, isInverse, dividing⟩ := bind_eq_ok_iff.1 checked
    obtain ⟨_, rfl⟩ := Arithmetic.div_eq_ok_iff.1 isInverse
    obtain ⟨ratio, isRatio, rooted⟩ := bind_eq_ok_iff.1 dividing
    obtain ⟨_, rfl⟩ := Arithmetic.div_eq_ok_iff.1 isRatio
    exact (Arithmetic.sqrt_eq_ok_iff.1 rooted).2.symm

/-- The step of a course is finite only if that of coordinate time is. -/
theorem Course.finite_of_computedStep
    {course : Course α}
    {panel : Panel α}
    {step : α}
    (finite : isFinite (course.computedStep panel step) = true) :
    isFinite step = true := by
  unfold computedStep at finite
  split at finite
  · have numerator :
        isFinite (step * step * (1.0 - course.speed * course.speed)) = true :=
      IeeeScalar.finite_of_div (IeeeScalar.finite_of_sqrt finite)
    have squared : isFinite (step * step) = true :=
      (IeeeScalar.finite_of_mul numerator).1
    exact (IeeeScalar.finite_of_mul squared).1
  · exact finite

end Orbit

namespace Observer

open Orbit

section Advance

variable {observer : Observer α} {panel : Panel α} {elapsed : α}
  {course : Course α}

/-- On a valid panel, a course leads a finite observer to a finite place and
velocity. -/
theorem Finite.place
    (finite : observer.Finite)
    (valid : panel.Valid)
    (found : observer.course panel = .ok course) :
    (observer.place course.placement?).position.Finite ∧
      (observer.place course.placement?).velocity.Finite := by
  unfold Observer.course at found
  split at found
  · obtain ⟨placement, placed, position, velocity⟩ :=
      finite_of_circularCourse valid finite.properTime found
    rw [placed]
    exact ⟨position, velocity⟩
  · rw [placement_of_restingCourse found]
    exact ⟨finite.position, finite.velocity⟩

omit [IeeeScalar α] in
/-- On a panel of scalars, a plan takes the step of its course for the time
elapsed at the time scale. -/
theorem exists_step_of_plan
    {step : Value α}
    (measured : panel.Measured)
    (planned : observer.plan (.real elapsed) panel = .ok (course, step)) :
    ∃ scale,
      panel.quantity .timeScale = .real scale ∧
        step = .real (course.computedStep panel (elapsed * scale)) := by
  obtain ⟨scale, held⟩ := measured .timeScale
  refine ⟨scale, held, ?_⟩
  obtain ⟨seconds, coordinateStep, ⟨read, _⟩, scaled, _, stepped⟩ :=
    exists_of_plan planned
  cases read
  rw [held] at scaled
  cases scaled
  unfold Course.computedStep
  split at stepped
  · next dilates =>
      obtain ⟨x, dilated, rfl⟩ := stepped
      rw [if_pos dilates, eq_of_dilatedStep dilated]
  · next steady => rw [if_neg steady, stepped]

/-- On a valid panel, an advance of a finite observer leaves it as it was, or
gives it a finite place and velocity; its clock then is finite only if the time
elapsed and the step are. -/
theorem stopped_or_finite
    (valid : panel.Valid)
    (finite : observer.Finite)
    (elapsed : α) :
    let after := observer.advance (.real elapsed) panel
    (∃ fault, after = .stopped observer fault) ∨
      ∃ course scale,
        observer.course panel = .ok course ∧
          panel.quantity .timeScale = .real scale ∧
          let step := course.computedStep panel (elapsed * scale)
          after.result = .ok (.real step) ∧
            after.state.position.Finite ∧ after.state.velocity.Finite ∧
            after.state.properTime = observer.properTime + step ∧
            (isFinite after.state.properTime = true →
              isFinite elapsed = true ∧ isFinite step = true) := by
  intro after
  cases planned : observer.plan (.real elapsed) panel with
  | error fault => exact .inl ⟨fault, advance_of_plan_error planned⟩
  | ok plan =>
      obtain ⟨course, step⟩ := plan
      have found : observer.course panel = .ok course := course_of_plan planned
      obtain ⟨scale, held, rfl⟩ :=
        exists_step_of_plan valid.measured planned
      obtain ⟨reached, followed⟩ : after.result = .ok (.real _) ∧
        after.state = observer.followed course _ := advance_of_plan_ok planned
      obtain ⟨position, velocity⟩ := finite.place valid found
      rw [followed]
      refine .inr
        ⟨course, scale, found, held, reached, position, velocity, rfl,
          fun shown => ?_⟩
      have finiteStep := (IeeeScalar.finite_of_add shown).2
      have product : isFinite (elapsed * scale) = true :=
        Course.finite_of_computedStep finiteStep
      exact ⟨(IeeeScalar.finite_of_mul product).1, finiteStep⟩

omit [IeeeScalar α] in
/-- Without dilation, on a panel of scalars, an advance stops only for a time
below zero or for want of a course. -/
theorem stopped_iff_of_steady
    (measured : panel.Measured)
    (steady : panel.isOn .gravitationalTimeDilation = false)
    (observer : Observer α)
    (elapsed : α) :
    (∃ fault,
      observer.advance (.real elapsed) panel = .stopped observer fault) ↔
      elapsed < 0.0 ∨ ∃ fault, observer.course panel = .error fault := by
  have less : (Number.real elapsed).Less (.real 0.0) ↔ elapsed < 0.0 :=
    Number.less_real_iff
  by_cases negative : elapsed < 0.0
  · have planned : observer.plan (.real elapsed) panel =
        .error (.domain (.negativeElapsed (.real elapsed))) :=
      if_pos (less.2 negative)
    exact ⟨fun _ => .inl negative,
      fun _ => ⟨_, advance_of_plan_error planned⟩⟩
  · obtain ⟨scale, held⟩ := measured .timeScale
    have scaled : Arithmetic.times (.real elapsed) (panel.quantity .timeScale) =
        .ok (.real (elapsed * scale)) := by
      rw [held]
      rfl
    have planned := observer.plan_of_later scaled (mt less.1 negative)
    cases found : observer.course panel with
    | error fault =>
        rw [found] at planned
        exact ⟨fun _ => .inr ⟨fault, rfl⟩,
          fun _ => ⟨fault, advance_of_plan_error planned⟩⟩
    | ok course =>
        simp only [found, steady, bind, Except.bind, pure, Except.pure,
          Bool.false_eq_true, if_false] at planned
        have moved := (advance_of_plan_ok planned).1
        constructor
        · rintro ⟨fault, stopped⟩
          rw [stopped] at moved
          cases moved
        · rintro (below | ⟨fault, missing⟩)
          · exact absurd below negative
          · cases missing

end Advance

end Observer

end Generic

namespace Observer

/-- Whatever double elapses on a valid panel, an advance of a finite observer
changes nothing, or keeps place and velocity finite. A clock that is still
finite took a finite time. -/
theorem advance_finite
    {sin cos : Float → Float}
    (sine :
      ∀ x : Float, x.isFinite = true → -1.0 ≤ sin x ∧ sin x ≤ 1.0)
    (cosine :
      ∀ x : Float, x.isFinite = true → -1.0 ≤ cos x ∧ cos x ≤ 1.0)
    {panel : Panel (DoubleWith sin cos)}
    (valid : panel.Valid)
    {observer : Observer (DoubleWith sin cos)}
    (finite : observer.Finite)
    (elapsed : DoubleWith sin cos) :
    let after := observer.advance (.real elapsed) panel
    ((∃ fault, after = .stopped observer fault) ∨
      ∃ course scale,
        observer.course panel = .ok course ∧
          panel.quantity .timeScale = .real scale ∧
          let step := course.computedStep panel (elapsed * scale)
          after.result = .ok (.real step) ∧
            after.state.position.Finite ∧ after.state.velocity.Finite ∧
            after.state.properTime = observer.properTime + step ∧
            (isFinite after.state.properTime = true →
              isFinite elapsed = true ∧ isFinite step = true)) ∧
      (panel.isOn .gravitationalTimeDilation = false →
        ((∃ fault, after = .stopped observer fault) ↔
          elapsed < 0.0 ∨
            ∃ fault, observer.course panel = .error fault)) := by
  intro after
  have := Double.ieeeScalar_doubleWith sine cosine
  refine ⟨stopped_or_finite valid finite elapsed, fun steady => ?_⟩
  exact stopped_iff_of_steady valid.measured steady observer elapsed

/-- After an infinite time on an orbit that is not tilted, the observer is at a
finite place, but its clock is not finite. -/
theorem advance_finite_forever :
    let panel : Panel (DoubleWith (fun _ => 0.0) fun _ => 1.0) :=
      Panel.initial.assign (.quantity .orbitalInclination) (.real 0.0)
    let after := start.advance (.real (1.0 / 0.0)) panel
    panel.Valid ∧
      after.state.position.Finite ∧ after.state.velocity.Finite ∧
        isFinite after.state.properTime = false := by
  intro panel after
  have valid : panel.Valid := by
    intro control
    cases control with
    | quality => rfl
    | flag which => rfl
    | quantity which => cases which <;> rfl
  have finite :
      (start : Observer (DoubleWith (fun _ => 0.0) fun _ => 1.0)).Finite :=
    ⟨⟨rfl, rfl, rfl⟩, ⟨rfl, by decide +kernel, rfl⟩, rfl⟩
  have zero (x : Float) (_ : x.isFinite = true) :
      -1.0 ≤ (0.0 : Float) ∧ (0.0 : Float) ≤ 1.0 := by
    decide +kernel
  have one (x : Float) (_ : x.isFinite = true) :
      -1.0 ≤ (1.0 : Float) ∧ (1.0 : Float) ≤ 1.0 := by
    decide +kernel
  have moved : after.result.isOk = true := by decide +kernel
  rcases (advance_finite zero one valid finite (1.0 / 0.0)).1 with
    ⟨fault, stopped⟩ |
      ⟨course, scale, _, _, _, position, velocity, _, shown⟩
  · rw [show after = _ from stopped] at moved
    cases moved
  · refine ⟨valid, position, velocity,
      Bool.eq_false_iff.2 fun finiteClock => ?_⟩
    have elapsed := (shown finiteClock).1
    revert elapsed
    decide +kernel

/-- An undefined time is not refused, and undefines the clock of an observer at
rest. -/
theorem advance_undefined :
    let after := start.advance (.real (0.0 / 0.0)) (Panel.resting : Panel Float)
    (Panel.resting : Panel Float).Valid ∧
      (start : Observer Float).Finite ∧
        after.result.isOk = true ∧
          isFinite after.state.properTime = false := by
  refine ⟨Panel.valid_resting,
    ⟨⟨rfl, rfl, rfl⟩, ⟨rfl, by decide +kernel, rfl⟩, rfl⟩, ?_, ?_⟩
  · decide +kernel
  · decide +kernel

end Observer

end BlackHoleScene
