import BlackHoleScene.Space.Grid
import BlackHoleScene.Space.Mat3

/-!
# Vectors and matrices from nested arrays

`Vec3.ofGrid` and `Mat3.ofGrid` take nested arrays of three entries and of three
rows of three, and refuse every other form: `Vec3.ofGrid_eq_ok_iff` and
`Mat3.ofGrid_eq_ok_iff`. `Mat3.filledBy` repeats what it is
given until the matrix is full. On nested arrays that are vectors, fitting and
products are those of vectors: `Grid.fitted_toGrid` and `Grid.cross_toGrid`.
-/

namespace BlackHoleScene

variable {α : Type}

/-- The vector of a nested array of three entries. -/
def Vec3.ofGrid : Grid α → Except (Fault α) (Vec3 α)
  | .row [.entry x, .entry y, .entry z] => .ok ⟨x, y, z⟩
  | _ => .error (.shape .mismatch)

/-- The nested array of three entries. -/
def Vec3.toGrid (v : Vec3 α) : Grid α :=
  .row [.entry v.x, .entry v.y, .entry v.z]

/-- Only the written form of a vector is read as one. -/
theorem Vec3.ofGrid_eq_ok_iff
    {grid : Grid α}
    {v : Vec3 α} :
    Vec3.ofGrid grid = .ok v ↔ grid = v.toGrid := by
  constructor
  · intro read
    unfold Vec3.ofGrid at read
    split at read
    · cases read
      rfl
    · cases read
  · rintro rfl
    rfl

/-- The matrix of a nested array of three rows of three entries. -/
def Mat3.ofGrid : Grid α → Except (Fault α) (Mat3 α)
  | .row
      [.row [.entry a, .entry b, .entry c],
        .row [.entry d, .entry e, .entry f],
        .row [.entry g, .entry h, .entry i]] =>
      .ok ⟨⟨a, d, g⟩, ⟨b, e, h⟩, ⟨c, f, i⟩⟩
  | _ => .error (.shape .mismatch)

/-- The nested array of the rows. -/
def Mat3.toGrid (m : Mat3 α) : Grid α := .row (m.rows.map Vec3.toGrid)

/-- Only the written form of a matrix is read as one. -/
theorem Mat3.ofGrid_eq_ok_iff
    {grid : Grid α}
    {m : Mat3 α} :
    Mat3.ofGrid grid = .ok m ↔ grid = m.toGrid := by
  constructor
  · intro read
    unfold Mat3.ofGrid at read
    split at read
    · cases read
      rfl
    · cases read
  · rintro rfl
    rfl

namespace Grid

/-- Drop the outer depths at which a grid is a row of a single part, at most so
many of them. -/
def unwrap : Nat → Grid α → Grid α
  | excess + 1, .row [part] => unwrap excess part
  | _, grid => grid

/-- Three rows of three entries that hold nothing. -/
def emptyMatrix : Grid Unit :=
  .row (List.replicate 3 (.row (List.replicate 3 (.entry ()))))

/-- The vectors whose coordinates stand at the same place of three grids. -/
def vectors
    {φ : Type}
    (x y z : Grid α) : Except (Fault φ) (Grid (Vec3 α)) := do
  let pairs ← fitted Prod.mk x y
  fitted (fun (a, b) c => ⟨a, b, c⟩) pairs z

@[simp] theorem shape?_toGrid (v : Vec3 α) : v.toGrid.shape? = some [3] := rfl

/-- Vectors are combined coordinate by coordinate. -/
@[simp] theorem fitted_toGrid
    {β γ φ : Type}
    (f : α → β → γ)
    (a : Vec3 α)
    (b : Vec3 β) :
    (fitted f a.toGrid b.toGrid : Except (Fault φ) (Grid γ)) =
      .ok (Vec3.toGrid ⟨f a.x b.x, f a.y b.y, f a.z b.z⟩) := rfl

/-- The product of vectors is their vector product. -/
@[simp] theorem cross_toGrid
    [Scalar α]
    (a b : Vec3 α) :
    a.toGrid.cross b.toGrid = .ok (a.cross b).toGrid := rfl

@[simp] theorem norm_toGrid
    [Scalar α]
    (v : Vec3 α) :
    v.toGrid.norm = v.norm := rfl

/-- Vectors beside each other are the columns of a matrix. -/
@[simp] theorem beside_toGrid
    {φ : Type}
    (a b c : Vec3 α) :
    (beside a.toGrid b.toGrid c.toGrid : Except (Fault φ) (Grid α)) =
      .ok (Mat3.toGrid ⟨a, b, c⟩) := rfl

/-- Three entries are the coordinates of a single vector. -/
@[simp] theorem vectors_entry
    {φ : Type}
    (x y z : α) :
    (vectors (.entry x) (.entry y) (.entry z) :
      Except (Fault φ) (Grid (Vec3 α))) =
      .ok (.entry ⟨x, y, z⟩) := rfl

end Grid

/-- The matrix that a nested array fills when it is repeated to fit. Outer rows
of a single part do not matter. -/
def Mat3.filledBy (grid : Grid α) : Except (Fault α) (Mat3 α) := do
  let some shape := grid.shape? | .error (.shape .mismatch)
  let matrix := grid.unwrap (shape.length - 2)
  Mat3.ofGrid (← Grid.fitted (fun x () => x) matrix Grid.emptyMatrix)

end BlackHoleScene
