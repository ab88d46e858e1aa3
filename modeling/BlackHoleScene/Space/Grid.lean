import BlackHoleScene.Arithmetic

/-!
# Nested arrays

Arrays from the host arrive as nested rows. `Grid.shape?` tells whether the rows
are even and not too deep. Two grids meet entry by entry, or innermost row by
innermost row, after the one of less depth is taken as a single row of the
other's rows, and a row of length one is repeated to fit.
-/

namespace BlackHoleScene

/-- A nested array. -/
inductive Grid (α : Type)
  | entry (x : α)
  | row (parts : List (Grid α))

namespace Grid

variable {α : Type}

mutual

/-- The lengths of the rows at each depth; `none` when they differ. -/
def lengths? : Grid α → Option (List Nat)
  | .entry _ => some []
  | .row [] => some [0]
  | .row (first :: rest) =>
      match lengths? first with
      | some inner =>
          if allHave inner rest then some ((rest.length + 1) :: inner) else none
      | none => none

/-- All parts have the given lengths. -/
def allHave (lengths : List Nat) : List (Grid α) → Bool
  | [] => true
  | part :: rest => lengths? part == some lengths && allHave lengths rest

end

/-- How deep rows can be nested in an array. -/
def depthLimit : Nat := 64

/-- The shape of an array: the lengths of its rows at each depth, if the rows
are even and nested within the limit. -/
def shape? (grid : Grid α) : Option (List Nat) :=
  grid.lengths?.filter fun lengths => lengths.length ≤ depthLimit

/-- The parts of a row; an entry has none. -/
def parts : Grid α → List (Grid α)
  | .entry _ => []
  | .row parts => parts

/-- Check that the grid has a shape. -/
def checkEven {φ : Type} (grid : Grid α) : Except (Fault φ) Unit :=
  if grid.shape?.isNone then .error (.shape .mismatch) else .ok ()

mutual

/-- The entries, row by row. -/
def entries : Grid α → List α
  | .entry x => [x]
  | .row parts => entriesAll parts

/-- The entries of parts in order. -/
def entriesAll : List (Grid α) → List α
  | [] => []
  | part :: rest => entries part ++ entriesAll rest

end

mutual

/-- Apply a function to every entry. -/
def map {β : Type} (f : α → β) : Grid α → Grid β
  | .entry x => .entry (f x)
  | .row parts => .row (mapAll f parts)

/-- Apply a function to every entry of parts in order. -/
def mapAll {β : Type} (f : α → β) : List (Grid α) → List (Grid β)
  | [] => []
  | part :: rest => map f part :: mapAll f rest

end

/-- Wrap a grid into rows of one part, a number of times. -/
def wrap : Nat → Grid α → Grid α
  | 0, grid => grid
  | depth + 1, grid => .row [wrap depth grid]

/-- The parts of two rows that stand against each other. A row of one part
stands against every part of the other. -/
def facing?
    {β γ : Type}
    (left : List β)
    (right : List γ) : Option (List (β × γ)) :=
  if left.length = right.length then some (left.zip right)
  else
    match left, right with
    | [single], _ => some (right.map fun part => (single, part))
    | _, [single] => some (left.map fun part => (part, single))
    | _, _ => none

/-- Combine two entries. -/
def onEntries?
    {β γ : Type}
    (f : α → β → γ) : Grid α → Grid β → Option (Grid γ)
  | .entry x, .entry y => some (.entry (f x y))
  | _, _ => none

/-- Combine two grids by what `f` makes of the parts that stand against each
other at the given depth. -/
def combine?
    {β γ : Type}
    (f : Grid α → Grid β → Option (Grid γ)) :
      Nat → Grid α → Grid β → Option (Grid γ)
  | 0, a, b => f a b
  | depth + 1, .row left, .row right =>
      match facing? left right with
      | some pairs => (pairs.mapM fun (a, b) => combine? f depth a b).map .row
      | none => none
  | _, _, _ => none

/-- Combine two even grids after fitting them to each other: `f` is given what
they hold when a number of inner depths is left. -/
def fittedAbove
    {β γ φ : Type}
    (inner : Nat)
    (f : Grid α → Grid β → Option (Grid γ))
    (a : Grid α)
    (b : Grid β) : Except (Fault φ) (Grid γ) :=
  match a.shape?, b.shape? with
  | some shapeA, some shapeB =>
      let depth := max shapeA.length shapeB.length
      let wrappedA := wrap (depth - shapeA.length) a
      let wrappedB := wrap (depth - shapeB.length) b
      match combine? f (depth - inner) wrappedA wrappedB with
      | some grid => .ok grid
      | none => .error (.shape .mismatch)
  | _, _ => .error (.shape .mismatch)

/-- Combine two even grids entry by entry, after fitting them to each other. -/
def fitted
    {β γ φ : Type}
    (f : α → β → γ) :
    Grid α → Grid β → Except (Fault φ) (Grid γ) :=
  fittedAbove 0 (onEntries? f)

/-- Rows that each hold one part of three grids of the same shape. -/
def beside
    {φ : Type}
    (first second third : Grid α) : Except (Fault φ) (Grid α) :=
  if first.shape?.isNone ∨ first.shape? ≠ second.shape? ∨
      first.shape? ≠ third.shape? then
    .error (.shape .mismatch)
  else
    match first, second, third with
    | .row first, .row second, .row third =>
        .ok
          (.row
            ((first.zip (second.zip third)).map fun (a, b, c) =>
              .row [a, b, c]))
    | _, _, _ => .error (.shape .mismatch)

/-- The row of the parts at an index of all rows. -/
def column? (index : Nat) (grid : Grid α) : Option (Grid α) :=
  (grid.parts.mapM fun row => row.parts[index]?).map .row

variable [Scalar α]

/-- The sum of the squares of scalars. -/
def sumSquares : List α → α
  | [] => 0.0
  | x :: rest => rest.foldl (fun sum y => sum + y * y) (x * x)

/-- The length of the entries as one long vector. -/
def norm (grid : Grid α) : α :=
  Scalar.sqrt (sumSquares grid.entries)

/-- The root of the summed squared differences of two grids. -/
def distance (a b : Grid α) : Except (Fault α) α :=
  (fitted (fun x y => x - y) a b).map norm

/-- The vector product of two rows. A row of two entries lies in the plane of
the first two axes; the product of two such rows is a single entry. -/
def crossRows? (a b : Grid α) : Option (Grid α) :=
  match a.entries, b.entries with
  | [a, b, c], [d, e, f] =>
      some
        (.row
          [.entry (b * f - c * e), .entry (c * d - a * f),
            .entry (a * e - b * d)])
  | [a, b, c], [d, e] =>
      some (.row [.entry (-(c * e)), .entry (c * d), .entry (a * e - b * d)])
  | [a, b], [d, e, f] =>
      some (.row [.entry (b * f), .entry (-(a * f)), .entry (a * e - b * d)])
  | [a, b], [d, e] => some (.entry (a * e - b * d))
  | _, _ => none

/-- The vector product, innermost row by innermost row. -/
def cross (a b : Grid α) : Except (Fault α) (Grid α) :=
  fittedAbove 1 crossRows? a b

end Grid

end BlackHoleScene
