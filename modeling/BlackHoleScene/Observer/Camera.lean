import BlackHoleScene.Control.Panel
import BlackHoleScene.Log
import BlackHoleScene.Observer.Basic
import BlackHoleScene.Space.Coordinates
import BlackHoleScene.Space.Transform

/-!
# The camera

The host hands in the transform from camera to world. On an orbit, its rotation
is taken relative to a frame that follows the motion; otherwise it is the camera
basis itself, and the observer sits at rest behind the camera.

The frame can also be asked of nested arrays, which may hold many vectors; for
arrays that are vectors it is the same frame: `Camera.orbitBasisOfGrids_toGrid`.
-/

namespace BlackHoleScene

variable {α : Type} [Scalar α]

namespace Direction

/-- Length up to which a vector has no direction, unless told otherwise. -/
def leastLength : α := 1e-12

/-- Check that a vector of some length has a direction. -/
def checkLength
    (subject : String)
    (threshold length : α) : Except (Fault α) Unit :=
  if ¬Scalar.isFinite length ∨ length ≤ threshold then
    .error (.degenerate ⟨subject, length⟩)
  else .ok ()

end Direction

/-- The vector of length one in the same direction. -/
def Vec3.normalize
    (subject : String)
    (v : Vec3 α) : Except (Fault α) (Vec3 α) := do
  Direction.checkLength subject Direction.leastLength v.norm
  return v.shrink v.norm

/-- A nested array divided by its length. -/
def Grid.normalize
    (grid : Grid α)
    (subject : String)
    (threshold : α) : Except (Fault α) (Grid α) := do
  grid.checkEven
  Direction.checkLength subject threshold grid.norm
  return grid.map fun x => x / grid.norm

@[simp] theorem Grid.normalize_toGrid
    (v : Vec3 α)
    (subject : String) :
    v.toGrid.normalize subject Direction.leastLength =
      (v.normalize subject).map Vec3.toGrid := by
  simp only [Grid.normalize, Vec3.normalize, Grid.checkEven, Grid.shape?_toGrid,
    Grid.norm_toGrid]
  cases Direction.checkLength subject Direction.leastLength v.norm <;> rfl

namespace Camera

/-- How strongly the direction of motion outweighs the position in the choice of
the second orbital axis. -/
def headingWeight : α := 4.0

/-- The frame that follows the motion: its second axis points along the motion
and inward, and its third is normal to that and to the position. -/
def orbitBasis (position velocity : Vec3 α) : Except (Fault α) (Mat3 α) := do
  let heading ← velocity.normalize "velocity"
  let axisY ←
    (heading.scale headingWeight - position).normalize "orbital y axis"
  let axisZ ← (position.cross axisY).normalize "orbital z axis"
  return { colX := axisY.cross axisZ, colY := axisY, colZ := axisZ }

/-- The frame that follows the motion, from nested arrays: these are fitted to
each other, products are taken row by row, and lengths are those of whole
arrays. -/
def orbitBasisOfGrids (position velocity : Grid α) :
    Except (Fault α) (Grid α) := do
  position.checkEven
  let heading ← velocity.normalize "velocity" Direction.leastLength
  let inward ←
    Grid.fitted (fun along out => headingWeight * along - out) heading position
  let axisY ← inward.normalize "orbital y axis" Direction.leastLength
  let axisZ ←
    (← position.cross axisY).normalize "orbital z axis" Direction.leastLength
  Grid.beside (← axisY.cross axisZ) axisY axisZ

/-- On vectors, the two frames are the same. -/
theorem orbitBasisOfGrids_toGrid (position velocity : Vec3 α) :
    orbitBasisOfGrids position.toGrid velocity.toGrid =
      (orbitBasis position velocity).map Mat3.toGrid := by
  simp only [orbitBasisOfGrids, orbitBasis, Grid.checkEven, Grid.shape?_toGrid,
    Grid.normalize_toGrid]
  cases velocity.normalize "velocity" with
  | error fault => rfl
  | ok heading =>
      have inward :
          (Grid.fitted (fun along out => headingWeight * along - out)
              heading.toGrid position.toGrid : Except (Fault α) (Grid α)) =
            .ok (heading.scale headingWeight - position).toGrid := rfl
      simp only [Except.map, bind, Except.bind, inward, Grid.normalize_toGrid]
      cases (heading.scale headingWeight - position).normalize
        "orbital y axis" with
      | error fault => rfl
      | ok axisY =>
          simp only [Except.map, Grid.cross_toGrid, Grid.normalize_toGrid]
          cases (position.cross axisY).normalize "orbital z axis" <;> rfl

/-- The rotation of the camera: its rows are the first, third and second columns
of the turn. -/
def basisOfView (view : Transform α) : Mat3 α :=
  .ofRows view.turn.colX view.turn.colZ view.turn.colY

/-- The place at a distance behind the third axis of the camera. -/
def positionBehind (camera : Mat3 α) (distance : α) : Vec3 α :=
  (-camera.colZ).scale distance

end Camera

/-- Turn the observer's camera to a view. On an orbit, a frame without direction
leaves the observer as it was; otherwise the camera turns even if its distance
is then found to be beyond all scalars. -/
def Observer.turnTo
    (observer : Observer α)
    (view : Transform α)
    (panel : Panel α) : Outcome α (Observer α) Unit :=
  let camera := Camera.basisOfView view
  if panel.isOn .observerMotion then
    match Camera.orbitBasis observer.position observer.velocity with
    | .error fault => .stopped observer fault
    | .ok frame => .done { observer with orientation := frame.mul camera } ()
  else
    let turned := { observer with orientation := camera }
    match panel.scalar .observerDistance with
    | .error fault => .stopped turned fault
    | .ok distance =>
        .done
          { turned with
            position := Camera.positionBehind camera distance
            velocity := Vec3.zero }
          ()

end BlackHoleScene
