import BlackHoleScene.Chart.Horizon
import BlackHoleScene.Chart.Sample
import BlackHoleScene.Space.Coordinates

/-!
# Charts of a recorded run

Two charts show a run: the path of the observer around the horizon, with the
camera axes at its end, and the observer's clock against coordinate time.
-/

namespace BlackHoleScene

variable {α : Type} [Scalar α]

/-- An arrow, drawn from tail to tip. -/
structure Arrow (α : Type) where
  tip : Vec3 α
  tail : Vec3 α

/-- The arrow of a shaft that is put up at a place: it goes from none of the
shaft to all of it. -/
def Arrow.ofShaft (place shaft : Vec3 α) : Arrow α where
  tip := place + shaft
  tail := place + shaft.scale 0.0

/-- The chart of the path. -/
structure OrbitChart (α : Type) where
  title : String := "Observer orbit"
  labels : List String := ["x", "y", "z"]
  legend : List String := ["observer"]
  /-- The chart shows each coordinate from minus this value to this value. -/
  extent : α
  path : List (Vec3 α)
  horizon : List (List (Vec3 α))
  /-- The arrows of each camera axis at the end of the path. -/
  arrows : List (List (Arrow α))

/-- A curve of a chart. -/
structure Curve (α : Type) where
  label : String
  /-- A solid line is `-`, a dashed one `--`. -/
  style : String
  points : List (α × α)

/-- The chart of the clock. -/
structure ClockChart (α : Type) where
  title : String := "Observer clock"
  labels : List String := ["coordinate time", "proper time"]
  curves : List (Curve α)

/-- The charts of a run. -/
structure Figure (α : Type) where
  orbit : OrbitChart α
  clock : ClockChart α

namespace Figure

/-- The greater of two scalars; an undefined one is passed on. -/
def greater (x y : α) : α :=
  if Scalar.IsUndefined x then x
  else if Scalar.IsUndefined y then y
  else if x < y then y else x

/-- The greatest magnitude of a coordinate. -/
def reach (coordinates : List α) : α :=
  coordinates.foldl (fun most x => greater most (Scalar.abs x)) 0.0

/-- How far the orbit chart reaches beyond the path. -/
def margin : α := 1.1

/-- Below this value an axis cannot tell the ends of its range apart. -/
def leastExtent : α := 2.225073858507201e-287

/-- What an axis shows of a range whose ends it cannot tell apart. -/
def pointExtent : α := 0.05

/-- The range that the axes show for some coordinates. It must have a finite
width. -/
def extentOf (coordinates : List α) : Except (Fault α) α :=
  let extent := reach coordinates * margin
  if coordinates.isEmpty ∨ ¬Scalar.isFinite (extent + extent) then
    .error (.chart .noLimits)
  else if extent < leastExtent then .ok pointExtent
  else .ok extent

/-- The points of a position: its first three parts are their coordinates. -/
def pointsOf (position : Grid α) : Except (Fault α) (List (Vec3 α)) :=
  match position.parts with
  | x :: y :: z :: _ => (Grid.vectors x y z).map Grid.entries
  | _ => .error (.shape .mismatch)

/-- The path through positions, all of one shape. -/
def pathOf (positions : List (Grid α)) :
    Except (Fault α) (List (Vec3 α)) := do
  let shapes := positions.map Grid.shape?
  if shapes.any fun shape => shapes.head? ≠ some shape then
    .error (.shape .mismatch)
  else return (← positions.mapM pointsOf).flatten

/-- Length of the camera axes in the orbit chart, unless told otherwise. -/
def standardAxisLength : α := 2.0

/-- The arrows along the camera axis at an index, which is stretched by a
factor. The parts of the position and of the axis are the coordinates of place
and shaft. -/
def arrowsOf
    (sample : Sample α)
    (factor : α)
    (index : Nat) : Except (Fault α) (List (Arrow α)) := do
  let some axis := sample.axes.column? index | .error (.shape .mismatch)
  let shaft := axis.map fun x => x * factor
  match sample.position.parts ++ shaft.parts with
  | [x, y, z, u, v, w] =>
      let arrows ←
        Grid.fitted Arrow.ofShaft (← Grid.vectors x y z)
          (← Grid.vectors u v w)
      return arrows.entries
  | _ => .error .unsuitable

/-- Chart a run of at least one sample, all of whose positions the axes can
show. -/
def ofSamples
    (samples : List (Sample α))
    (axisLength : α) : Except (Fault α) (Figure α) := do
  let some final := samples.getLast? | .error (.chart .noSamples)
  let positions := samples.map Sample.position
  let path ← pathOf positions
  let arrows ← [0, 1, 2].mapM (arrowsOf final axisLength)
  let extent ← extentOf (positions.flatMap Grid.entries)
  let times := samples.map Sample.coordinateTime
  let clock := samples.map Sample.properTime
  return {
    orbit := { extent, path, horizon := Horizon.lines, arrows }
    clock := {
      curves := [
        ⟨"proper time", "-", times.zip clock⟩,
        ⟨"coordinate time", "--", times.zip times⟩] } }

end Figure

end BlackHoleScene
