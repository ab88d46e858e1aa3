import BlackHoleScene.Space.Mat3

/-!
# The observer

The observer has a place, a velocity, a camera basis and a clock of its own. The
black hole has its horizon at radius one, and light has speed one.
-/

namespace BlackHoleScene

variable {α : Type} [Scalar α]

/-- Kinematic state of the observer. -/
structure Observer (α : Type) where
  position : Vec3 α
  velocity : Vec3 α
  /-- The axes of the camera, as columns. -/
  orientation : Mat3 α
  /-- Time accumulated on the observer's clock. -/
  properTime : α
  deriving DecidableEq

namespace Observer

/-- An observer on the x axis at a given radius, crossing it at a given speed,
with its camera along the axes of the world. -/
def crossingAxis (radius speed : α) : Observer α where
  position := ⟨radius, 0.0, 0.0⟩
  velocity := ⟨0.0, speed, 0.0⟩
  orientation := Mat3.identity
  properTime := 0.0

/-- An observer on the x axis at the speed of a circular orbit there. -/
def onAxis (radius : Number α) : Except (Fault α) (Observer α) := do
  let r ← Arithmetic.scalar radius
  let speed ← Arithmetic.div 1.0 (← Arithmetic.sqrt (2.0 * (r - 1.0)))
  return crossingAxis r speed

/-- Radius at which an observer starts unless told otherwise. -/
def startRadius : α := 10.0

/-- The observer at the start of a session. -/
def start : Observer α :=
  crossingAxis startRadius (1.0 / Scalar.sqrt (2.0 * (startRadius - 1.0)))

end Observer

end BlackHoleScene
