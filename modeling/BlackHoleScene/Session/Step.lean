import BlackHoleScene.Session.Basic

/-!
# Frames

`Session.step` makes one frame: queued changes take effect, the observer moves
on, the camera turns, and the program text is made again if a change calls for
it. When nothing moved and nothing changed there is no frame.

A step that stops halfway keeps what it did until then: the queue is drained,
and an observer that has moved on stays so.
-/

namespace BlackHoleScene

variable {α : Type} [Scalar α]

/-- What the renderer needs to know of the observer and the planet. -/
structure RenderData (α : Type) where
  time : α
  position : Vec3 α
  velocity : Vec3 α
  /-- The axes of the camera, as columns. -/
  axes : Mat3 α
  planetDistance : α
  planetRadius : α

/-- What the host needs to draw a frame. -/
structure Frame (α : Type) where
  renderData : RenderData α
  /-- The program text, if it was made again. -/
  program? : Option String
  /-- Proper time that passed for the observer. -/
  properTimeStep : Number α

namespace Session

/-- The data of the current state for the renderer. -/
def renderData (session : Session α) : Except (Fault α) (RenderData α) := do
  let planetDistance ← session.panel.scalar .planetDistance
  let planetRadius ← session.panel.scalar .planetRadius
  return {
    time := session.observer.properTime
    position := session.observer.position
    velocity := session.observer.velocity
    axes := session.observer.orientation
    planetDistance
    planetRadius }

/-- Let the queued changes take effect; one that decides the program text makes
it stale. -/
def drain (session : Session α) : Outcome α (Session α) ChangeReport :=
  let drained :=
    (session.queue.drain session.panel).within fun (panel, queue) =>
    { session with panel, queue }
  drained.andThen fun changed report =>
    .done (if report.needsCompile then changed.markStale else changed) report

/-- The view of a frame: the one supplied, or else that of the last frame, or
else the one at the start. -/
def chooseView
    (session : Session α)
    (view? : Option (Grid α)) : Except (Fault α) (Grid α) :=
  match view?, session.lastView? with
  | some view, _ =>
      if view.shape?.isSome then .ok view else .error (.shape .mismatch)
  | none, some last => .ok last.toGrid
  | none, none => Transform.startView.map Transform.toGrid

/-- Whether a frame is called for. -/
def needsFrame
    (session : Session α)
    (report : ChangeReport)
    (view : Grid α) : Except (Fault α) Bool :=
  if report.isEffective || session.program.isStale ||
      session.panel.isAnimated then
    .ok true
  else session.viewDiffers view

/-- Turn the camera to a view. A camera that has no direction to turn to stays
as it is, and that is reported. -/
def turnCamera
    (session : Session α)
    (view : Grid α) : Outcome α (Session α) (Transform α) :=
  match Transform.ofGrid view with
  | .error fault => .stopped session fault
  | .ok transform =>
      let turned := session.observer.turnTo transform session.panel
      let updated := { session with observer := turned.state }
      match turned.result with
      | .ok () => .done updated transform
      | .error (.degenerate cause) =>
          { result := .ok transform, state := updated,
            log := [.keptOrientation cause] }
      | .error fault => .stopped updated fault

/-- Gather what the host needs, making the program text again if it is stale. -/
def publish
    (session : Session α)
    (properTimeStep : Number α) : Outcome α (Session α) (Frame α) :=
  match session.renderData with
  | .error fault => .stopped session fault
  | .ok renderData =>
      let renewed := (session.program.renew session.panel).within fun program =>
        { session with program }
      renewed.andThen fun published program? =>
        .done published { renderData, program?, properTimeStep }

/-- Make a frame. -/
def produceFrame
    (session : Session α)
    (elapsed : Value α)
    (view : Grid α) : Outcome α (Session α) (Frame α) :=
  let advanced :=
    (session.observer.advance elapsed session.panel).within fun observer =>
    { session with observer }
  advanced.andThen fun moved properTimeStep =>
    (moved.turnCamera view).andThen fun turned transform =>
      { turned with lastView? := some transform }.publish properTimeStep

/-- Step the session by some wall-clock time, with a view if the host has a new
one. There is no frame when nothing moved and nothing changed. -/
def step
    (session : Session α)
    (elapsed : Value α)
    (view? : Option (Grid α)) : Outcome α (Session α) (Option (Frame α)) :=
  session.drain.andThen fun drained report =>
    match drained.chooseView view? with
    | .error fault => .stopped drained fault
    | .ok view =>
        match drained.needsFrame report view with
        | .error fault => .stopped drained fault
        | .ok false => .done drained none
        | .ok true =>
            (drained.produceFrame elapsed view).andThen fun produced update =>
              .done produced (some update)

end Session

end BlackHoleScene
