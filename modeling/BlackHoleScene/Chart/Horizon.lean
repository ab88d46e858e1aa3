import BlackHoleScene.Space.Vec3

/-!
# The horizon in a chart

The horizon is drawn as a wire frame of meridians and parallels on the unit
sphere.
-/

namespace BlackHoleScene
namespace Horizon

variable {α : Type} [Scalar α]

/-- Number of meridians; the last lies on the first. -/
def meridianCount : Nat := 32

/-- Number of parallels, the poles included. -/
def parallelCount : Nat := 16

/-- A natural as a scalar. -/
def count (n : Nat) : α := OfScientific.ofScientific n false 0

/-- Points spread evenly over the range from zero, both ends included. -/
def spread (last : α) (points : Nat) : List α :=
  (List.range points).map fun index =>
    if index + 1 = points then last
    else count index * (last / count (points - 1))

/-- Longitudes of the meridians. -/
def longitudes : List α := spread (2.0 * Scalar.pi) meridianCount

/-- Angles of the parallels from the pole. -/
def colatitudes : List α := spread Scalar.pi parallelCount

/-- The point of the unit sphere at a longitude and an angle from the pole. -/
def point (longitude colatitude : α) : Vec3 α :=
  ⟨Scalar.cos longitude * Scalar.sin colatitude,
    Scalar.sin longitude * Scalar.sin colatitude, Scalar.cos colatitude⟩

/-- The lines of the wire frame: first the meridians, then the parallels. -/
def lines : List (List (Vec3 α)) :=
  longitudes.map (fun longitude => colatitudes.map (point longitude)) ++
    colatitudes.map
      (fun colatitude => longitudes.map fun longitude =>
        point longitude colatitude)

end Horizon
end BlackHoleScene
