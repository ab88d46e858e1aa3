import BlackHoleScene.Space.Grid

/-!
# Samples

A sample records one frame for a chart.
-/

namespace BlackHoleScene

variable {α : Type}

/-- One recorded frame. -/
structure Sample (α : Type) where
  /-- Wall-clock time at the time scale, summed over the frames. -/
  coordinateTime : α
  /-- The observer's clock after the frame. -/
  properTime : α
  position : Grid α
  /-- The axes of the camera, as columns. -/
  axes : Grid α

namespace Sample

/-- Record a frame from the position and the camera axes that the renderer
got. -/
def ofFrame
    (coordinateTime properTime : α)
    (position axisX axisY axisZ : Grid α) : Except (Fault α) (Sample α) := do
  let axes ← Grid.beside axisX axisY axisZ
  position.checkEven
  return { coordinateTime, properTime, position, axes }

end Sample

end BlackHoleScene
