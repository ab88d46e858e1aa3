import BlackHoleScene.Control.Panel
import BlackHoleScene.Log
import BlackHoleScene.Observer.Basic

/-!
# Motion of the observer

With motion on, the observer is on a circular orbit around the black hole, in a
plane tilted about the y axis, and its place is computed in closed form from the
reading of its own clock. With motion off, the place is left to the camera and
only its radius matters. Either way the clock runs slower than coordinate time
when gravitational time dilation is on.

Everything is computed before the observer changes, so what stops an advance
leaves the observer as it was; the one exception is a step that the clock cannot
take, an integer too large for it or no number at all.

The elapsed time, and what a step is dilated by, come as control values; whether
one of them is a number is found out where it is used.
-/

namespace BlackHoleScene

variable {α : Type} [Scalar α]

namespace Orbit

/-- Radius of the horizon. -/
def horizonRadius : α := 1.0

/-- The scalar of a radius, which must be finite and outside the horizon. -/
def radiusOutside (radius : Number α) : Except (Fault α) α := do
  let r ← Arithmetic.scalar radius
  if ¬Scalar.isFinite r ∨ r ≤ horizonRadius then
    .error (.domain (.insideHorizon radius))
  else .ok r

/-- Coordinate speed `1 / sqrt (2 (r - 1))` on a circular orbit of radius `r`.
It reaches the speed of light at radius one and a half. -/
def circularSpeed (radius : Number α) : Except (Fault α) α := do
  let r ← radiusOutside radius
  Arithmetic.div 1.0 (← Arithmetic.sqrt (2.0 * (r - 1.0)))

/-- Step of proper time `sqrt (dt² (1 - v²) / (1 - 1 / r))` for a step `dt` of
coordinate time at speed `v` and radius `r`. -/
def dilatedStep (step speed radius : Value α) : Except (Fault α) α := do
  let place ← Arithmetic.number radius
  let r ← radiusOutside place
  let motion ← Arithmetic.number speed
  if (Number.real 1.0).AtMost motion then
    .error (.domain (.notBelowLightSpeed motion place))
  else
    let time ← Arithmetic.number step
    let squaredStep ← Arithmetic.mul time time
    let squaredSpeed ← Arithmetic.mul motion motion
    let kinetic := 1.0 - (← Arithmetic.scalar squaredSpeed)
    let numerator := (← Arithmetic.scalar squaredStep) * kinetic
    let gravitational := 1.0 - (← Arithmetic.div 1.0 r)
    Arithmetic.sqrt (← Arithmetic.div numerator gravitational)

/-- Place and velocity of an observer. -/
structure Placement (α : Type) where
  position : Vec3 α
  velocity : Vec3 α

/-- Radius and speed at which time passes for the observer, with its placement
if that is prescribed. -/
structure Course (α : Type) where
  radius : α
  speed : α
  placement? : Option (Placement α)

/-- The course along the circular orbit of the panel's radius and tilt, at a
reading of the observer's clock. -/
def circularCourse
    (properTime : α)
    (panel : Panel α) : Except (Fault α) (Course α) := do
  let r ← panel.scalar .observerDistance
  let v ← circularSpeed (.real r)
  if 1.0 ≤ v then .error (.domain (.noTimelikeOrbit r v))
  else
    let phase := properTime * (← Arithmetic.div v r)
    let s ← Arithmetic.sin phase
    let c ← Arithmetic.cos phase
    let inclination ← Arithmetic.number (panel.quantity .orbitalInclination)
    let tilt ← Mat3.rotationY inclination
    return {
      radius := r
      speed := v
      placement? := some {
        position := tilt.apply ⟨c * r, s * r, 0.0⟩
        velocity := tilt.apply ⟨-s * v, c * v, 0.0⟩ } }

/-- The course of an observer that stays where it is. -/
def restingCourse (position : Vec3 α) : Except (Fault α) (Course α) := do
  let r ← radiusOutside (.real position.norm)
  return { radius := r, speed := 0.0, placement? := none }

end Orbit

namespace Observer

open Orbit

/-- The course that the panel sets the observer on. -/
def course
    (observer : Observer α)
    (panel : Panel α) : Except (Fault α) (Course α) :=
  if panel.isOn .observerMotion then circularCourse observer.properTime panel
  else restingCourse observer.position

/-- The course for some wall-clock time, and the step of proper time. -/
def plan
    (observer : Observer α)
    (elapsed : Value α)
    (panel : Panel α) : Except (Fault α) (Course α × Value α) := do
  let seconds ← Arithmetic.number elapsed
  if seconds.Less (.real 0.0) then .error (.domain (.negativeElapsed seconds))
  else
    let coordinateStep ← Arithmetic.times seconds (panel.quantity .timeScale)
    let course ← observer.course panel
    if panel.isOn .gravitationalTimeDilation then
      let step ←
        dilatedStep coordinateStep (.real course.speed) (.real course.radius)
      return (course, .real step)
    else return (course, coordinateStep)

/-- Put the observer where a course prescribes. -/
def place (observer : Observer α) : Option (Placement α) → Observer α
  | none => observer
  | some placement =>
      { observer with
        position := placement.position, velocity := placement.velocity }

/-- A step as a number, and as the scalar that the clock takes it for. -/
def clockStep (step : Value α) : Except (Fault α) (Number α × α) := do
  let exact ← Arithmetic.number step
  return (exact, ← Arithmetic.scalar exact)

/-- Let wall-clock time pass for the observer. The result is the step of proper
time. -/
def advance
    (observer : Observer α)
    (elapsed : Value α)
    (panel : Panel α) : Outcome α (Observer α) (Number α) :=
  match observer.plan elapsed panel with
  | .error fault => .stopped observer fault
  | .ok (course, step) =>
      let placed := observer.place course.placement?
      match clockStep step with
      | .error fault => .stopped placed fault
      | .ok (exact, scalarStep) =>
          let properTime := placed.properTime + scalarStep
          { result := .ok exact
            state := { placed with properTime }
            log :=
              [.advanced course.radius course.speed scalarStep properTime] }

end Observer

end BlackHoleScene
