import BlackHoleScene.Proofs.Session.Ends
import Mathlib.Data.List.Induction

/-!
# Runs and what they leave behind

Every operation keeps a session valid, so every run does. `Session.events` lists
the operations of a run with the states they were performed in, and
`Session.latest?` finds the last of them that left something behind, such as a
program text for the host or a frame.
-/

namespace BlackHoleScene

variable {α : Type} [Scalar α]

namespace Session

/-! ### Operations -/

@[simp] theorem perform_enqueue
    (session : Session α)
    (path : String)
    (value : Value α) :
    session.perform (.enqueue path value) =
      { result := (session.enqueue path value).result.map fun () => .done
        state := (session.enqueue path value).state
        log := (session.enqueue path value).log } := by
  simp only [perform, Outcome.andThen_done]

@[simp] theorem perform_pauseOrResume (session : Session α) :
    session.perform .pauseOrResume =
      { result := session.pauseOrResume.result.map .paused
        state := session.pauseOrResume.state
        log := session.pauseOrResume.log } :=
  Outcome.andThen_done session.pauseOrResume Reply.paused

@[simp] theorem perform_fetchProgram (session : Session α) :
    session.perform .fetchProgram =
      { result := session.fetchProgram.result.map .text
        state := session.fetchProgram.state
        log := session.fetchProgram.log } :=
  Outcome.andThen_done session.fetchProgram Reply.text

@[simp] theorem perform_step
    (session : Session α)
    (elapsed : Value α)
    (view? : Option (Grid α)) :
    session.perform (.step elapsed view?) =
      { result := (session.step elapsed view?).result.map .frame
        state := (session.step elapsed view?).state
        log := (session.step elapsed view?).log } :=
  Outcome.andThen_done (session.step elapsed view?) Reply.frame

/-! ### Validity along a run -/

/-- Queueing keeps the queue of a session valid, also when the value is refused.
-/
theorem valid_queue_enqueue
    {session : Session α}
    (valid : session.queue.Valid)
    (path : String)
    (value : Value α) :
    (session.enqueue path value).state.queue.Valid := by
  unfold Session.enqueue
  cases queued : session.queue.enqueue path value with
  | error fault => exact valid
  | ok queue => exact valid.enqueue queued

/-- Pausing and resuming keep the queue of a session valid. -/
theorem valid_queue_pauseOrResume
    {session : Session α}
    (valid : session.queue.Valid) :
    session.pauseOrResume.state.queue.Valid := by
  unfold Session.pauseOrResume
  split
  · have queued := valid_queue_enqueue valid Quantity.timeScale.path
      (if session.resumeScale.isTruthy then session.resumeScale else .real 1.0)
    exact Outcome.andThen_state
      (motive := fun reached : Session α => reached.queue.Valid) queued
      fun _ => queued
  · let remembered : Session α :=
      { session with resumeScale := session.effectiveTimeScale }
    have unchanged : remembered.queue.Valid := valid
    have queued :=
      valid_queue_enqueue unchanged Quantity.timeScale.path (.real 0.0)
    exact Outcome.andThen_state
      (motive := fun reached : Session α => reached.queue.Valid) queued
      fun _ => queued

/-- Queueing keeps a session valid, also when the value is refused. -/
theorem Valid.enqueue
    {session : Session α}
    (valid : session.Valid)
    (path : String)
    (value : Value α) :
    (session.enqueue path value).state.Valid := by
  unfold Session.enqueue
  cases queued : session.queue.enqueue path value with
  | error fault => exact valid
  | ok queue =>
      exact ⟨valid.panel, valid.queue.enqueue queued, valid.resumeScale⟩

/-- The time scale that a valid session heads for is valid. -/
theorem Valid.effectiveTimeScale
    {session : Session α}
    (valid : session.Valid) :
    (Control.quantity .timeScale).Valid session.effectiveTimeScale := by
  unfold Session.effectiveTimeScale
  cases last : session.queue.lastValue? Quantity.timeScale.path with
  | none => exact valid.panel (.quantity .timeScale)
  | some value => exact valid.queue.lastValue? last

/-- Pausing and resuming keep a session valid. -/
theorem Valid.pauseOrResume
    {session : Session α}
    (valid : session.Valid) :
    session.pauseOrResume.state.Valid := by
  unfold Session.pauseOrResume
  split
  · have queued := valid.enqueue Quantity.timeScale.path
      (if session.resumeScale.isTruthy then session.resumeScale else .real 1.0)
    exact Outcome.andThen_state queued fun _ =>
      ⟨queued.panel, queued.queue, queued.resumeScale⟩
  · have remembered :
        Session.Valid
          { session with resumeScale := session.effectiveTimeScale } :=
      ⟨valid.panel, valid.queue, valid.effectiveTimeScale⟩
    have queued := remembered.enqueue Quantity.timeScale.path (.real 0.0)
    exact Outcome.andThen_state queued fun _ =>
      ⟨queued.panel, queued.queue, queued.resumeScale⟩

/-- However a step of a valid session ends, the session is valid then. -/
theorem StepEnds.valid
    {session reached : Session α}
    {elapsed : Value α}
    {view? : Option (Grid α)}
    {result : Except (Fault α) (Option (Frame α))}
    (ends : session.StepEnds elapsed view? result reached)
    (valid : session.Valid) :
    reached.Valid := by
  have drained := valid.drained
  cases ends with
  | unseen => exact drained
  | idle => exact drained
  | held => exact drained
  | blind => exact ⟨drained.panel, drained.queue, drained.resumeScale⟩
  | framed => exact ⟨drained.panel, drained.queue, drained.resumeScale⟩

/-- Every operation keeps a session valid. -/
theorem Valid.perform
    {session : Session α}
    (valid : session.Valid)
    (operation : Operation α) :
    (session.perform operation).state.Valid := by
  cases operation with
  | enqueue path value =>
      rw [perform_enqueue]
      exact valid.enqueue path value
  | discardChanges =>
      exact ⟨valid.panel, ChangeQueue.valid_empty, valid.resumeScale⟩
  | pauseOrResume =>
      rw [perform_pauseOrResume]
      exact valid.pauseOrResume
  | markStale => exact ⟨valid.panel, valid.queue, valid.resumeScale⟩
  | fetchProgram =>
      rw [perform_fetchProgram]
      exact ⟨valid.panel, valid.queue, valid.resumeScale⟩
  | step elapsed view? =>
      rw [perform_step]
      exact (valid.step_ends elapsed view?).valid valid

/-- Every operation keeps the queue of a session valid. -/
theorem valid_queue_perform
    {session : Session α}
    (valid : session.queue.Valid)
    (operation : Operation α) :
    (session.perform operation).state.queue.Valid := by
  cases operation with
  | enqueue path value =>
      rw [perform_enqueue]
      exact valid_queue_enqueue valid path value
  | discardChanges => exact ChangeQueue.valid_empty
  | pauseOrResume =>
      rw [perform_pauseOrResume]
      exact valid_queue_pauseOrResume valid
  | markStale => exact valid
  | fetchProgram =>
      rw [perform_fetchProgram]
      exact valid
  | step elapsed view? =>
      obtain ⟨_, _, _, left⟩ := step_scene valid elapsed view?
      rw [perform_step, left]
      exact ChangeQueue.valid_empty

/-- What holds at the start, and is kept by each operation that follows a run,
holds after every run. -/
theorem run_induction
    (session : Session α)
    {motive : List (Operation α) → Session α → Prop}
    (nil : motive [] session)
    (concat : ∀ before operation,
      motive before (session.run before) →
        motive (before ++ [operation])
          ((session.run before).perform operation).state)
    (operations : List (Operation α)) :
    motive operations (session.run operations) := by
  induction operations using List.reverseRecOn with
  | nil => exact nil
  | append_singleton before operation ih =>
      rw [run_append]
      exact concat before operation ih

/-- Every run keeps a session valid. -/
theorem Valid.run
    {session : Session α}
    (valid : session.Valid)
    (operations : List (Operation α)) :
    (session.run operations).Valid :=
  session.run_induction (motive := fun _ reached => reached.Valid) valid
    (fun _ operation reached => reached.perform operation) operations

/-- Every run keeps the queue of a session valid. -/
theorem valid_queue_run
    {session : Session α}
    (valid : session.queue.Valid)
    (operations : List (Operation α)) :
    (session.run operations).queue.Valid :=
  session.run_induction (motive := fun _ reached => reached.queue.Valid) valid
    (fun _ operation reached => valid_queue_perform reached operation)
      operations

/-- A session at its beginning. -/
def opening
    (stencilText : String)
    (panel : Panel α)
    (settings : Settings α)
    (observer : Observer α) : Session α :=
  (start stencilText panel settings observer).state

/-- A session that begins with a valid panel is valid. -/
theorem valid_opening
    (stencilText : String)
    {panel : Panel α}
    (valid : panel.Valid)
    (settings : Settings α)
    (observer : Observer α) :
    (opening stencilText panel settings observer).Valid where
  panel := valid
  queue := ChangeQueue.valid_empty
  resumeScale := valid (.quantity .timeScale)

/-! ### Input -/

/-- The sessions differ at most in what is queued and in the pause. -/
structure SameScene (session other : Session α) : Prop where
  settings : session.settings = other.settings
  panel : session.panel = other.panel
  observer : session.observer = other.observer
  program : session.program = other.program
  lastView? : session.lastView? = other.lastView?

omit [Scalar α] in
theorem SameScene.refl (session : Session α) : session.SameScene session :=
  ⟨rfl, rfl, rfl, rfl, rfl⟩

omit [Scalar α] in
theorem SameScene.trans
    {first second third : Session α}
    (left : first.SameScene second)
    (right : second.SameScene third) :
    first.SameScene third :=
  ⟨left.1.trans right.1, left.2.trans right.2, left.3.trans right.3,
    left.4.trans right.4, left.5.trans right.5⟩

/-- Queueing leaves the scene as it is. -/
theorem sameScene_enqueue
    (session : Session α)
    (path : String)
    (value : Value α) :
    (session.enqueue path value).state.SameScene session := by
  unfold enqueue
  cases session.queue.enqueue path value with
  | error fault => exact .refl session
  | ok queue => exact ⟨rfl, rfl, rfl, rfl, rfl⟩

/-- Pausing and resuming leave the scene as it is. -/
theorem sameScene_pauseOrResume (session : Session α) :
    session.pauseOrResume.state.SameScene session := by
  unfold pauseOrResume
  split
  · have queued := session.sameScene_enqueue Quantity.timeScale.path
      (if session.resumeScale.isTruthy then session.resumeScale else .real 1.0)
    exact Outcome.andThen_state (motive := (SameScene · session)) queued
      fun _ => ⟨queued.1, queued.2, queued.3, queued.4, queued.5⟩
  · have queued :=
      Session.sameScene_enqueue
        { session with resumeScale := session.effectiveTimeScale }
        Quantity.timeScale.path (.real 0.0)
    have kept :
        (Session.enqueue
          { session with resumeScale := session.effectiveTimeScale }
        Quantity.timeScale.path (.real 0.0)).state.SameScene session :=
      ⟨queued.1, queued.2, queued.3, queued.4, queued.5⟩
    exact Outcome.andThen_state (motive := (SameScene · session)) kept
      fun _ => ⟨kept.1, kept.2, kept.3, kept.4, kept.5⟩

end Session

/-- The operations by which input handlers steer: they queue, forget, pause and
resume. -/
def Operation.isInput : Operation α → Bool
  | .enqueue _ _ => true
  | .discardChanges => true
  | .pauseOrResume => true
  | _ => false

omit [Scalar α] in
/-- An operation is input, or one of the three others. -/
@[elab_as_elim]
theorem Operation.inputCases
    {motive : Operation α → Prop}
    (input :
      ∀ operation : Operation α,
        operation.isInput = true → motive operation)
    (markStale : motive .markStale)
    (fetchProgram : motive .fetchProgram)
    (step : ∀ elapsed view?, motive (.step elapsed view?))
    (operation : Operation α) :
    motive operation := by
  cases operation with
  | enqueue path value => exact input _ rfl
  | discardChanges => exact input _ rfl
  | pauseOrResume => exact input _ rfl
  | markStale => exact markStale
  | fetchProgram => exact fetchProgram
  | step elapsed view? => exact step elapsed view?

/-- The reply of an operation by which input handlers steer. -/
def Reply.isAcknowledgement : Reply α → Bool
  | .done => true
  | .paused _ => true
  | _ => false

namespace Session

/-- Input leaves the scene as it is until the next drain. -/
theorem sameScene_perform
    (session : Session α)
    {operation : Operation α}
    (input : operation.isInput = true) :
    (session.perform operation).state.SameScene session := by
  cases operation with
  | enqueue path value =>
      rw [perform_enqueue]
      exact session.sameScene_enqueue path value
  | discardChanges => exact ⟨rfl, rfl, rfl, rfl, rfl⟩
  | pauseOrResume =>
      rw [perform_pauseOrResume]
      exact session.sameScene_pauseOrResume
  | markStale => cases input
  | fetchProgram => cases input
  | step elapsed view? => cases input

/-- A run of input leaves the scene as it is. -/
theorem sameScene_run
    (session : Session α)
    {operations : List (Operation α)}
    (input : ∀ operation ∈ operations, operation.isInput = true) :
    (session.run operations).SameScene session := by
  induction operations generalizing session with
  | nil => exact .refl session
  | cons operation rest ih =>
      obtain ⟨first, later⟩ := List.forall_mem_cons.1 input
      exact (ih _ later).trans (session.sameScene_perform first)

/-- Input is only acknowledged. -/
theorem isAcknowledgement_of_perform
    {session : Session α}
    {operation : Operation α}
    {reply : Reply α}
    (input : operation.isInput = true)
    (replied : (session.perform operation).result = .ok reply) :
    reply.isAcknowledgement = true := by
  cases operation with
  | enqueue path value =>
      rw [perform_enqueue] at replied
      obtain ⟨_, _, rfl⟩ := map_eq_ok_iff.1 replied
      rfl
  | discardChanges =>
      cases replied
      rfl
  | pauseOrResume =>
      rw [perform_pauseOrResume] at replied
      obtain ⟨_, _, rfl⟩ := map_eq_ok_iff.1 replied
      rfl
  | markStale => cases input
  | fetchProgram => cases input
  | step elapsed view? => cases input

end Session

/-! ### Events -/

/-- An operation of a run, with the session that it was performed in. -/
structure Event (α : Type) where
  before : Session α
  operation : Operation α

/-- What the operation led to. -/
def Event.outcome (event : Event α) : Outcome α (Session α) (Reply α) :=
  event.before.perform event.operation

namespace Session

/-- The operations of a run with the sessions they were performed in, in order.
-/
def events (session : Session α) : List (Operation α) → List (Event α)
  | [] => []
  | operation :: rest =>
      ⟨session, operation⟩ :: (session.perform operation).state.events rest

/-- One more operation is one more event, at the end. -/
theorem events_concat
    (session : Session α)
    (before : List (Operation α))
    (operation : Operation α) :
    session.events (before ++ [operation]) =
      session.events before ++ [⟨session.run before, operation⟩] := by
  induction before generalizing session with
  | nil => rfl
  | cons first rest ih =>
      simp only [List.cons_append, events, ih, run_cons]

/-- What the last event left behind of those that left something. -/
def latest?
    {β : Type}
    (find : Event α → Option β)
    (session : Session α)
    (operations : List (Operation α)) : Option β :=
  (session.events operations).reverse.findSome? find

@[simp] theorem latest?_nil
    {β : Type}
    (find : Event α → Option β)
    (session : Session α) :
    latest? find session [] = none := rfl

/-- What an operation leaves behind takes the place of what was left before. -/
theorem latest?_concat
    {β : Type}
    (find : Event α → Option β)
    (session : Session α)
    (before : List (Operation α))
    (operation : Operation α) :
    latest? find session (before ++ [operation]) =
      (find ⟨session.run before, operation⟩).or
        (latest? find session before) := by
  rw [latest?, events_concat, List.reverse_append]
  simp only [List.reverse_singleton, List.singleton_append, List.findSome?_cons]
  cases find ⟨session.run before, operation⟩ <;> rfl

end Session

end BlackHoleScene
