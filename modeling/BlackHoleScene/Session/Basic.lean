import BlackHoleScene.Control.Queue
import BlackHoleScene.Observer.Camera
import BlackHoleScene.Observer.Motion
import BlackHoleScene.Program
import BlackHoleScene.Settings

/-!
# Sessions

A session joins the panel with its queue of changes, the observer and the shader
program, and remembers the view of the last frame. Input handlers queue changes
and pause; the host steps the session once a frame.
-/

namespace BlackHoleScene

variable {α : Type} [Scalar α]

/-- Everything that lasts from frame to frame. -/
structure Session (α : Type) where
  settings : Settings α
  panel : Panel α
  observer : Observer α
  program : Program
  queue : ChangeQueue α := {}
  paused : Bool := false
  /-- Time scale to return to when the pause ends. -/
  resumeScale : Value α
  /-- View of the last frame. -/
  lastView? : Option (Transform α) := none

/-- What there is to report about settings when they take effect. -/
def Settings.report (settings : Settings α) : List (LogEntry α) :=
  if settings.useCuda then [.cudaUnavailable] else []

namespace Session

/-- Begin a session. -/
def start
    (stencilText : String)
    (panel : Panel α)
    (settings : Settings α)
    (observer : Observer α) : Outcome α (Session α) Unit :=
  { result := .ok ()
    state :=
      { settings
        panel
        observer
        program := .ofString stencilText
        resumeScale := panel.quantity .timeScale }
    log := settings.report }

/-- Queue a value for the control of a path. -/
def enqueue
    (session : Session α)
    (path : String)
    (value : Value α) : Outcome α (Session α) Unit :=
  match session.queue.enqueue path value with
  | .error fault => .stopped session fault
  | .ok queue => .done { session with queue } ()

/-- Forget all queued changes. -/
def discardChanges (session : Session α) : Session α :=
  { session with queue := {} }

/-- Take the program text for stale. -/
def markStale (session : Session α) : Session α :=
  { session with program := session.program.markStale }

/-- Place a value on the panel directly, unchecked. -/
def assign
    (session : Session α)
    (control : Control)
    (value : Value α) : Session α :=
  { session with panel := session.panel.assign control value }

/-- The time scale that holds once the queue is drained. -/
def effectiveTimeScale (session : Session α) : Value α :=
  (session.queue.lastValue? Quantity.timeScale.path).getD
    (session.panel.quantity .timeScale)

/-- Freeze proper time, or let it run again at the scale it had before. The
result is whether the session is now paused. -/
def pauseOrResume (session : Session α) : Outcome α (Session α) Bool :=
  if session.paused then
    let scale :=
      if session.resumeScale.isTruthy then session.resumeScale else .real 1.0
    (session.enqueue Quantity.timeScale.path scale).andThen fun queued () =>
      .done { queued with paused := false } false
  else
    let remembered := { session with resumeScale := session.effectiveTimeScale }
    (remembered.enqueue Quantity.timeScale.path (.real 0.0)).andThen
      fun queued () =>
        .done { queued with paused := true } true

/-- Whether a view differs from that of the last frame by more than the
threshold of the settings; without a last frame, it does. -/
def viewDiffers
    (session : Session α)
    (view : Grid α) : Except (Fault α) Bool :=
  match session.lastView? with
  | none => .ok true
  | some last =>
      (Grid.distance view last.toGrid).map fun distance =>
        session.settings.cameraEps < distance

/-- The program text, made first if it is stale. -/
def fetchProgram (session : Session α) : Outcome α (Session α) String :=
  (session.program.fetch session.panel).within fun program =>
    { session with program }

end Session

end BlackHoleScene
