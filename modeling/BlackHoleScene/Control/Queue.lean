import BlackHoleScene.Control.Panel
import BlackHoleScene.Log

/-!
# The change queue

Input handlers do not touch the panel. They queue changes, which are accepted
when they are queued and take effect, in order, when the queue is drained.
-/

namespace BlackHoleScene

variable {α : Type} [Scalar α]

/-- A new value for a control. -/
structure Change (α : Type) where
  control : Control
  value : Value α

/-- Changes that wait to take effect, oldest first. -/
structure ChangeQueue (α : Type) where
  pending : List (Change α) := []

/-- The controls whose value a drain really changed, in the order of their first
change. -/
structure ChangeReport where
  controls : List Control := []
  deriving DecidableEq

namespace ChangeReport

/-- Some control changed. -/
def isEffective (report : ChangeReport) : Bool := !report.controls.isEmpty

/-- A control changed that decides the program text. -/
def needsCompile (report : ChangeReport) : Bool :=
  report.controls.any Control.decidesProgram

/-- Record that a control changed, unless it is recorded already. -/
def record (report : ChangeReport) (control : Control) : ChangeReport :=
  if control ∈ report.controls then report
  else ⟨report.controls ++ [control]⟩

end ChangeReport

namespace ChangeQueue

/-- Queue a value for the control of a path, in the form in which it is
accepted. -/
def enqueue
    (queue : ChangeQueue α)
    (path : String)
    (value : Value α) : Except (Fault α) (ChangeQueue α) := do
  let control ← Control.ofPath path
  let accepted ← control.accept value
  return ⟨queue.pending ++ [⟨control, accepted⟩]⟩

/-- The value queued last for the control of a path, if any is. -/
def lastValue? (queue : ChangeQueue α) (path : String) : Option (Value α) :=
  (queue.pending.reverse.find? fun change => change.control.path == path).map
    Change.value

/-- Let changes take effect one after the other; a change to the value that a
control has anyway has none. When a change is refused, those after it stay. -/
def applyAll
    (panel : Panel α)
    (report : ChangeReport) :
    List (Change α) → Outcome α (Panel α × ChangeQueue α) ChangeReport
  | [] => .done (panel, {}) report
  | change :: rest =>
      if (panel.get change.control).same change.value then
        applyAll panel report rest
      else
        match panel.set change.control change.value with
        | .error fault => .stopped (panel, ⟨rest⟩) fault
        | .ok changed =>
            let others := applyAll changed (report.record change.control) rest
            { others with
              log := .controlChanged change.control change.value :: others.log }

/-- Let all queued changes take effect on a panel. -/
def drain
    (queue : ChangeQueue α)
    (panel : Panel α) : Outcome α (Panel α × ChangeQueue α) ChangeReport :=
  applyAll panel {} queue.pending

end ChangeQueue

end BlackHoleScene
