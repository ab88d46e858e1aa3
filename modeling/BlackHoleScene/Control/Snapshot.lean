import BlackHoleScene.Control.Panel

/-!
# Snapshots

A snapshot lists what a control surface shows: every control under its name,
those of the planet and of the observer in groups, with the step count of the
tier and the version of the layout.
-/

namespace BlackHoleScene

variable {α : Type} [Scalar α]

/-- What a snapshot shows under a name. -/
inductive SnapshotEntry (α : Type)
  | value (value : Value α)
  | group (entries : List (String × Value α))

namespace Panel

/-- Version of the layout of snapshots. -/
def snapshotVersion : Nat := 1

/-- What the panel shows, by name; the tier must be a known one. -/
def snapshot (panel : Panel α) :
    Except (Fault α) (List (String × SnapshotEntry α)) := do
  let count (n : Nat) : SnapshotEntry α := .value (.number (.whole n))
  let flag (which : Flag) : String × SnapshotEntry α :=
    (which.path, .value (panel.flag which))
  let steps ← panel.steps
  return [
    ("version", count snapshotVersion),
    ("quality", .value panel.quality),
    ("n_steps", count steps),
    flag .accretionDisk,
    flag .lorentzContraction,
    flag .gravitationalTimeDilation,
    flag .aberration,
    flag .beaming,
    flag .dopplerShift,
    flag .lightTravelTime,
    (Quantity.timeScale.path, .value (panel.quantity .timeScale)),
    ("planet", .group [
      ("enabled", panel.flag .planetEnabled),
      ("distance", panel.quantity .planetDistance),
      ("radius", panel.quantity .planetRadius)]),
    ("observer", .group [
      ("motion", panel.flag .observerMotion),
      ("distance", panel.quantity .observerDistance),
      ("orbital_inclination", panel.quantity .orbitalInclination)])]

end Panel

end BlackHoleScene
