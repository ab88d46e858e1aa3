import BlackHoleScene.Proofs.Observer.Clock
import BlackHoleScene.Proofs.Session.RegularRun

/-!
# The clock along a run

Over the real numbers, the clock of an observer is the sum of what the frames
say has passed on it. Only a step that gives a frame moves it, by the step of
proper time that the frame tells of, which is never negative; a step that stops
or gives no frame does not touch it, provided that the views are transforms. So
each frame shows the time at the start and all the steps since, its own
included: `Session.properTime_of_run`.
-/

namespace BlackHoleScene

/-- The frame that an operation returned. -/
def Event.frame?
    {α : Type}
    [Scalar α]
    (event : Event α) : Option (Frame α) :=
  match event.operation, event.outcome.result with
  | .step _ _, .ok (.frame update?) => update?
  | _, _ => none

/-- The frame of a step is its result. -/
theorem Event.frame?_step
    {α : Type}
    [Scalar α]
    (session : Session α)
    (elapsed : Value α)
    (view? : Option (Grid α)) :
    Event.frame? ⟨session, .step elapsed view?⟩ =
      (session.step elapsed view?).result.toOption.join := by
  rw [frame?, outcome, Session.perform_step]
  cases (session.step elapsed view?).result <;> rfl

/-- The view of a step is a transform if it has one. -/
def Operation.LooksAlong : Operation ℝ → Prop
  | .step _ view? =>
      ∀ view,
        view? = some view →
          ∃ transform : Transform ℝ, view = transform.toGrid
  | _ => True

namespace Session

/-- The frames that a run returned, in order. -/
def frames
    {α : Type}
    [Scalar α]
    (session : Session α)
    (operations : List (Operation α)) :
    List (Frame α) :=
  (session.events operations).filterMap Event.frame?

/-- The proper time that the frames of a run say has passed. -/
noncomputable def timePassed
    (session : Session ℝ)
    (operations : List (Operation ℝ)) : ℝ :=
  ((session.frames operations).map fun frame => frame.properTimeStep.value).sum

/-- One more operation adds the step of its frame if it returns one. -/
theorem timePassed_concat
    (session : Session ℝ)
    (before : List (Operation ℝ))
    (operation : Operation ℝ) :
    session.timePassed (before ++ [operation]) =
      session.timePassed before +
        ((Event.frame? ⟨session.run before, operation⟩).elim 0 fun frame =>
          frame.properTimeStep.value) := by
  rw [timePassed, frames, events_concat, List.filterMap_append, List.map_append,
    List.sum_append]
  cases found : Event.frame? ⟨session.run before, operation⟩ <;>
    simp [found, timePassed, frames]

/-- The data for the renderer shows the clock. -/
theorem time_of_renderData
    {α : Type}
    [Scalar α]
    {session : Session α}
    {data : RenderData α}
    (gathered : session.renderData = .ok data) :
    data.time = session.observer.properTime := by
  obtain ⟨distance, _, rest⟩ := bind_eq_ok_iff.1 gathered
  obtain ⟨radius, _, made⟩ := bind_eq_ok_iff.1 rest
  cases made
  rfl

section Step

variable {session reached : Session ℝ} {elapsed : Value ℝ}
  {view? : Option (Grid ℝ)}

/-- The clock has moved as a frame tells, or stands where it was if there is
none. -/
structure Clocked
    (session reached : Session ℝ)
    (frame? : Option (Frame ℝ)) : Prop where
  still :
    frame? = none → reached.observer.properTime = session.observer.properTime
  moved :
    ∀ frame, frame? = some frame →
      0 ≤ frame.properTimeStep.value ∧
        reached.observer.properTime =
          session.observer.properTime + frame.properTimeStep.value ∧
        frame.renderData.time = reached.observer.properTime

/-- The clock never goes back. -/
theorem Clocked.le
    {frame? : Option (Frame ℝ)}
    (clocked : session.Clocked reached frame?) :
    session.observer.properTime ≤ reached.observer.properTime := by
  cases found : frame? with
  | none => exact (clocked.still found).ge
  | some frame =>
      obtain ⟨forward, moved, _⟩ := clocked.moved frame found
      rw [moved]
      exact le_add_of_nonneg_right forward

/-- However a step ends, the clock has moved as its frame tells. -/
theorem StepEnds.clocked
    {result : Except (Fault ℝ) (Option (Frame ℝ))}
    (ends : session.StepEnds elapsed view? result reached)
    (valid : session.Valid)
    {view : Transform ℝ}
    (seen : session.drained.chooseView view? = .ok view.toGrid) :
    session.Clocked reached result.toOption.join := by
  have still {other : Session ℝ}
      (same : other.observer.properTime = session.observer.properTime) :
      session.Clocked other none :=
    ⟨fun _ => same, fun _ absent => nomatch absent⟩
  cases ends with
  | unseen => exact still rfl
  | idle => exact still rfl
  | held => exact still rfl
  | blind chosen called moved unread =>
      cases seen.symm.trans chosen
      cases unread.symm.trans (Transform.ofGrid_eq_ok_iff.2 rfl)
  | @framed _ transform frame chosen called moved read frames =>
      obtain ⟨forward, clock⟩ :=
        Observer.properTime_advance valid.drained.panel moved
      have turned :
          (session.drained.shown
            (session.observer.advance elapsed session.drained.panel).state
            transform).observer.properTime =
          session.observer.properTime + frame.properTimeStep.value :=
        (Observer.properTime_turnTo _ _ _).trans clock
      constructor
      · intro absent
        cases absent
      · intro _ isFrame
        cases isFrame
        exact ⟨forward, turned, time_of_renderData frames.renderData⟩

/-- However an operation ends, the clock has moved as its frame tells. -/
theorem Valid.clocked
    (valid : session.Valid)
    {operation : Operation ℝ}
    (looks : operation.LooksAlong) :
    session.Clocked (session.perform operation).state
      (Event.frame? ⟨session, operation⟩) := by
  have still
      (same : (session.perform operation).state.observer = session.observer) :
      session.Clocked (session.perform operation).state none :=
    ⟨fun _ => congrArg Observer.properTime same,
      fun _ absent => nomatch absent⟩
  cases operation with
  | enqueue path value => exact still (session.sameScene_perform rfl).observer
  | discardChanges => exact still rfl
  | pauseOrResume => exact still (session.sameScene_perform rfl).observer
  | markStale => exact still rfl
  | fetchProgram =>
      rw [perform_fetchProgram] at still ⊢
      exact still rfl
  | step elapsed view? =>
      have supplied : ∀ grid, view? = some grid →
          ∃ view : Transform ℝ, grid = view.toGrid ∧ True := by
        intro grid isSupplied
        obtain ⟨view, along⟩ := looks grid isSupplied
        exact ⟨view, along, trivial⟩
      obtain ⟨view, seen, _⟩ :=
        session.drained.exists_chooseView_eq supplied (fun _ _ => trivial)
          fun _ _ => trivial
      rw [Event.frame?_step, perform_step]
      exact (valid.step_ends elapsed view?).clocked valid seen

end Step

section Run

variable {session : Session ℝ} {operations : List (Operation ℝ)}

/-- Along a run, the clock moves by what its frames tell. -/
theorem Valid.properTime_run
    (valid : session.Valid)
    (operations : List (Operation ℝ)) :
    (∀ operation ∈ operations, operation.LooksAlong) →
      (session.run operations).observer.properTime =
        session.observer.properTime + session.timePassed operations := by
  refine session.run_induction
    (motive := fun before reached =>
      (∀ operation ∈ before, operation.LooksAlong) →
        reached.observer.properTime =
          session.observer.properTime + session.timePassed before)
    ?nil ?concat operations
  case nil => exact fun _ => (add_zero _).symm
  case concat =>
    intro before operation clock looks
    obtain ⟨earlier, last⟩ := List.forall_mem_append.1 looks
    have clocked :=
      (valid.run before).clocked (last operation List.mem_cons_self)
    rw [timePassed_concat]
    cases found : Event.frame? ⟨session.run before, operation⟩ with
    | none => simpa [clocked.still found] using clock earlier
    | some frame =>
        obtain ⟨_, moved, _⟩ := clocked.moved frame found
        rw [moved, clock earlier, add_assoc]
        rfl

end Run

/-- Along a run with transforms for views, the clock never runs back and moves
on by the sum of the steps that its frames tell of. Each frame shows the time at
the start and the steps up to its own. -/
theorem properTime_of_run
    (stencilText : String)
    {panel : Panel ℝ}
    (valid : panel.Valid)
    (settings : Settings ℝ)
    (observer : Observer ℝ)
    (before after : List (Operation ℝ))
    (looks : ∀ operation ∈ after, operation.LooksAlong) :
    let session := (opening stencilText panel settings observer).run before
    let clock operations := (session.run operations).observer.properTime
    clock after - session.observer.properTime = session.timePassed after ∧
      ∀ early operation late, after = early ++ operation :: late →
        clock early ≤ clock (early ++ [operation]) ∧
        match Event.frame? ⟨session.run early, operation⟩ with
        | none => clock (early ++ [operation]) = clock early
        | some frame =>
            frame.renderData.time =
              session.observer.properTime +
                session.timePassed (early ++ [operation]) := by
  intro session clock
  have start : session.Valid :=
    (valid_opening stencilText valid settings observer).run before
  refine ⟨sub_eq_of_eq_add' (start.properTime_run after looks), ?_⟩
  rintro early operation late rfl
  obtain ⟨earlier, later⟩ := List.forall_mem_append.1 looks
  obtain ⟨last, _⟩ := List.forall_mem_cons.1 later
  have upTo : ∀ other ∈ early ++ [operation], other.LooksAlong :=
    List.forall_mem_append.2 ⟨earlier, List.forall_mem_singleton.2 last⟩
  have onward :
      clock (early ++ [operation]) =
        ((session.run early).perform operation).state.observer.properTime := by
    simp only [clock, run_append, run_cons, run_nil]
  have clocked := (start.run early).clocked last
  refine ⟨clocked.le.trans_eq onward.symm, ?_⟩
  cases found : Event.frame? ⟨session.run early, operation⟩ with
  | none => exact onward.trans (clocked.still found)
  | some frame =>
      obtain ⟨_, _, shown⟩ := clocked.moved frame found
      exact (shown.trans onward.symm).trans (start.properTime_run _ upTo)

/-- A step forward with a view, and one back, that stops. -/
theorem properTime_of_run_stoppedBackward :
    let session : Session ℝ := opening "" Panel.initial .initial .start
    let after : List (Operation ℝ) :=
      [.enqueue "time_scale" (.real 2),
        .step (.real 1) (some (Transform.ofTurn Mat3.identity).toGrid),
        .step (.real (-1)) none]
    (Panel.initial : Panel ℝ).Valid ∧
      (∀ operation ∈ after, operation.LooksAlong) ∧
      (session.run after).observer.properTime - session.observer.properTime =
        session.timePassed after := by
  intro session after
  have looks : ∀ operation ∈ after, operation.LooksAlong := by
    simp [after, Operation.LooksAlong]
  exact ⟨Panel.valid_initial_real, looks,
    (properTime_of_run "" Panel.valid_initial_real .initial .start [] after
      looks).1⟩

end Session

end BlackHoleScene
