import BlackHoleScene.Space.Grid
import BlackHoleScene.Space.Mat3

/-!
# Homogeneous transforms

The host places the camera by a matrix of four rows and four columns, whose
upper left block turns and whose last column moves.
-/

namespace BlackHoleScene

/-- A matrix of four rows and four columns, by blocks. -/
structure Transform (α : Type) where
  /-- The upper left block. -/
  turn : Mat3 α
  /-- The last column, without its last entry. -/
  offset : Vec3 α
  /-- The last row, without its last entry. -/
  bottom : Vec3 α
  corner : α
  deriving DecidableEq

namespace Transform

variable {α : Type}

/-- The transform given by a nested array of four rows of four entries. -/
def ofGrid? : Grid α → Option (Transform α)
  | .row
      [.row [.entry a, .entry b, .entry c, .entry d],
        .row [.entry e, .entry f, .entry g, .entry h],
        .row [.entry i, .entry j, .entry k, .entry l],
        .row [.entry m, .entry n, .entry o, .entry p]] =>
      some
        { turn := ⟨⟨a, e, i⟩, ⟨b, f, j⟩, ⟨c, g, k⟩⟩
          offset := ⟨d, h, l⟩
          bottom := ⟨m, n, o⟩
          corner := p }
  | _ => none

/-- The nested array of the entries, row by row. -/
def toGrid (t : Transform α) : Grid α :=
  let entries := fun (xs : List α) => Grid.row (xs.map .entry)
  .row
    [entries [t.turn.colX.x, t.turn.colY.x, t.turn.colZ.x, t.offset.x],
      entries [t.turn.colX.y, t.turn.colY.y, t.turn.colZ.y, t.offset.y],
      entries [t.turn.colX.z, t.turn.colY.z, t.turn.colZ.z, t.offset.z],
      entries [t.bottom.x, t.bottom.y, t.bottom.z, t.corner]]

/-- Only the written form of a transform is read as one. -/
theorem ofGrid?_eq_some_iff
    {grid : Grid α}
    {t : Transform α} :
    ofGrid? grid = some t ↔ grid = t.toGrid := by
  constructor
  · intro read
    unfold ofGrid? at read
    split at read
    · cases read
      rfl
    · cases read
  · rintro rfl
    rfl

/-- The transform of a nested array from the host, which must have four even
rows of four. -/
def ofGrid (grid : Grid α) : Except (Fault α) (Transform α) :=
  match grid.shape? with
  | none => .error (.shape .mismatch)
  | some shape =>
      match ofGrid? grid with
      | some transform => .ok transform
      | none => .error (.shape (.notTransform shape))

/-- The transforms from the host are the ones in their written form. -/
theorem ofGrid_eq_ok_iff
    {grid : Grid α}
    {t : Transform α} :
    ofGrid grid = .ok t ↔ grid = t.toGrid := by
  constructor
  · intro read
    unfold ofGrid at read
    split at read
    · cases read
    · split at read
      next found =>
        cases read
        exact ofGrid?_eq_some_iff.1 found
      · cases read
  · rintro rfl
    rfl

variable [Scalar α]

/-- The transform that turns and does not move. -/
def ofTurn (turn : Mat3 α) : Transform α where
  turn := turn
  offset := Vec3.zero
  bottom := Vec3.zero
  corner := 1.0

/-- The view at the start: pitched and turned by angles in degrees. -/
def pitchedView (pitch yaw : α) : Except (Fault α) (Transform α) := do
  let pitched ← Mat3.rotationX (.real (-pitch))
  let turned ← Mat3.rotationY (.real (-yaw))
  return ofTurn (pitched.mul turned)

/-- The view at the start of a session, a slight pitch above the disk plane. -/
def startView : Except (Fault α) (Transform α) := pitchedView 3.0 0.0

end Transform

end BlackHoleScene
