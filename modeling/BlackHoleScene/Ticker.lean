import BlackHoleScene.Scalar

/-!
# The ticker

Measures the wall-clock time between frames.
-/

namespace BlackHoleScene

/-- Remembers the reading of the wall clock at the last tick. -/
structure Ticker (α : Type) where
  last : α

namespace Ticker

variable {α : Type} [Scalar α]

/-- The time since the last tick, at a new reading of the clock. A clock that
was set back counts as one that stood still. -/
def elapsed (ticker : Ticker α) (now : α) : α :=
  let difference := now - ticker.last
  if difference < 0.0 then 0.0 else difference

/-- The times between consecutive readings. -/
def elapsedTimes (ticker : Ticker α) : List α → List α
  | [] => []
  | now :: later => ticker.elapsed now :: elapsedTimes ⟨now⟩ later

end Ticker

end BlackHoleScene
