import BlackHoleScene.Session.Operation
import BlackHoleScene.Proofs.Observer.Advance
import BlackHoleScene.Proofs.Program

/-!
# How the steps of a session end

A session is valid when its panel, its queue and the time scale it returns to
hold valid values. Every operation keeps it so. A step of a valid session drains
the queue without a fault, and then ends in one of five ways, which
`Session.StepEnds` lists with the state that each leaves behind: everything that
holds of all steps is proved by going through them.
-/

namespace BlackHoleScene

variable {α : Type} [Scalar α]

namespace Session

/-- The values that the session holds are valid. -/
structure Valid (session : Session α) : Prop where
  panel : session.panel.Valid
  queue : session.queue.Valid
  resumeScale : (Control.quantity .timeScale).Valid session.resumeScale

/-- The changes of the queue that take effect when it is drained. -/
def effectiveChanges (session : Session α) : List (Change α) :=
  ChangeQueue.effective session.panel session.queue.pending

/-- The report on these changes. -/
def report (session : Session α) : ChangeReport :=
  .recordAll {} session.effectiveChanges

/-- The session once its queue is drained. -/
def drained (session : Session α) : Session α :=
  { session with
    panel := session.panel.assignAll session.effectiveChanges
    queue := {}
    program :=
      { session.program with
        isStale := session.program.isStale || session.report.needsCompile } }

/-- The changes that take effect in a valid session are valid. -/
theorem Valid.effectiveChanges
    {session : Session α}
    (valid : session.Valid) :
    ∀ change ∈ session.effectiveChanges, change.Valid :=
  fun change member =>
    valid.queue change (ChangeQueue.mem_of_mem_effective member)

/-- A valid queue can be drained. -/
theorem drain_eq
    {session : Session α}
    (valid : session.queue.Valid) :
    session.drain.result = .ok session.report ∧
      session.drain.state = session.drained := by
  unfold drain
  rw [ChangeQueue.drain_eq valid session.panel]
  refine ⟨rfl, ?_⟩
  let placed : Session α :=
    { session with
      panel := session.panel.assignAll session.effectiveChanges, queue := {} }
  change (if session.report.needsCompile then placed.markStale else placed) =
    session.drained
  split
  · next needs => simp [placed, markStale, Program.markStale, drained, needs]
  · next spares => simp [placed, drained, spares]

/-- Draining keeps a session valid. -/
theorem Valid.drained
    {session : Session α}
    (valid : session.Valid) :
    session.drained.Valid where
  panel := valid.panel.assignAll valid.effectiveChanges
  queue := ChangeQueue.valid_empty
  resumeScale := valid.resumeScale

/-- A drain that changes nothing that decides the program text leaves the panel
in agreement with what it was. -/
theorem agreeOnProgram_drained
    {session : Session α}
    (spares : session.report.needsCompile = false) :
    session.drained.panel.AgreeOnProgram session.panel :=
  Panel.agreeOnProgram_assignAll session.panel
    (ChangeReport.needsCompile_recordAll_eq_false_iff.1 spares)

/-- A drain of changes that have no effect only empties the queue. -/
theorem drained_of_ineffective
    {session : Session α}
    (ineffective : session.report.isEffective = false) :
    session.drained = { session with queue := {} } := by
  have none : session.effectiveChanges = [] :=
    ChangeReport.isEffective_recordAll_eq_false_iff.1 ineffective
  have spares : session.report.needsCompile = false := by
    rw [report, none]
    rfl
  simp [drained, none, spares]

/-- No frame is called for only when nothing changed, the program is not stale,
nothing is animated, and the view is that of the last frame up to the threshold.
-/
theorem needsFrame_eq_false
    {session : Session α}
    {report : ChangeReport}
    {view : Grid α}
    (uncalled : session.needsFrame report view = .ok false) :
    report.isEffective = false ∧ session.program.isStale = false ∧
      session.panel.isAnimated = false ∧
        session.viewDiffers view = .ok false := by
  unfold needsFrame at uncalled
  split at uncalled
  · cases uncalled
  · next quiet =>
      simp only [Bool.or_eq_true, not_or, Bool.not_eq_true] at quiet
      exact ⟨quiet.1.1, quiet.1.2, quiet.2, uncalled⟩

/-- The session after its observer turned to a view and its program was renewed.
-/
def shown
    (session : Session α)
    (observer : Observer α)
    (view : Transform α) : Session α :=
  { session with
    observer := (observer.turnTo view session.panel).state
    program := (session.program.renew session.panel).state
    lastView? := some view }

/-- The frame tells of a session and of how its program was renewed. -/
structure Frames
    (session : Session α)
    (observer : Observer α)
    (view : Transform α)
    (frame : Frame α) : Prop where
  renderData : (session.shown observer view).renderData = .ok frame.renderData
  program? : (session.program.renew session.panel).result = .ok frame.program?

/-- The ways in which a step ends. -/
inductive StepEnds
    (session : Session α)
    (elapsed : Value α)
    (view? : Option (Grid α)) :
    Except (Fault α) (Option (Frame α)) → Session α → Prop
  /-- There is no view, or none that can be compared with that of the last
  frame. -/
  | unseen
      {fault : Fault α}
      (cause :
        session.drained.chooseView view? = .error fault ∨
          ∃ view, session.drained.chooseView view? = .ok view ∧
            session.drained.needsFrame session.report view = .error fault) :
      StepEnds session elapsed view? (.error fault) session.drained
  /-- No frame is called for. -/
  | idle
      {view : Grid α}
      (chosen : session.drained.chooseView view? = .ok view)
      (uncalled : session.drained.needsFrame session.report view = .ok false) :
      StepEnds session elapsed view? (.ok none) session.drained
  /-- The observer cannot move on. -/
  | held
      {view : Grid α}
      {fault : Fault α}
      (chosen : session.drained.chooseView view? = .ok view)
      (called : session.drained.needsFrame session.report view = .ok true)
      (stopped :
        (session.observer.advance elapsed session.drained.panel).result =
          .error fault) :
      StepEnds session elapsed view? (.error fault) session.drained
  /-- The observer moved on, but the view is no transform. -/
  | blind
      {view : Grid α}
      {fault : Fault α}
      {step : Number α}
      (chosen : session.drained.chooseView view? = .ok view)
      (called : session.drained.needsFrame session.report view = .ok true)
      (moved :
        (session.observer.advance elapsed session.drained.panel).result =
          .ok step)
      (unread : Transform.ofGrid view = .error fault) :
      StepEnds session elapsed view? (.error fault)
        { session.drained with
          observer :=
            (session.observer.advance elapsed session.drained.panel).state }
  /-- There is a frame. -/
  | framed
      {view : Grid α}
      {transform : Transform α}
      {frame : Frame α}
      (chosen : session.drained.chooseView view? = .ok view)
      (called : session.drained.needsFrame session.report view = .ok true)
      (moved :
        (session.observer.advance elapsed session.drained.panel).result =
          .ok frame.properTimeStep)
      (read : Transform.ofGrid view = .ok transform)
      (frames :
        session.drained.Frames
          (session.observer.advance elapsed session.drained.panel).state
            transform frame) :
      StepEnds session elapsed view? (.ok (some frame))
        (session.drained.shown
          (session.observer.advance elapsed session.drained.panel).state
            transform)

/-- The data for the renderer can be read off a showable panel. -/
theorem exists_renderData_eq
    {session : Session α}
    (showable : session.panel.Showable) :
    ∃ data, session.renderData = .ok data := by
  obtain ⟨distance, distanceRead⟩ := showable.planetDistance
  obtain ⟨radius, radiusRead⟩ := showable.planetRadius
  rw [renderData, distanceRead, radiusRead]
  exact ⟨_, rfl⟩

/-- A showable panel lets the program be renewed. -/
theorem exists_renew_eq
    {panel : Panel α}
    (showable : panel.Showable)
    (program : Program) :
    ∃ fresh?, (program.renew panel).result = .ok fresh? := by
  by_cases current : program.IsCurrent
  · exact ⟨none, by rw [Program.renew_of_isCurrent current panel]; rfl⟩
  · obtain ⟨text, compiled⟩ :=
      program.stencil.exists_compile_eq showable.steps
    exact ⟨some text, (Program.renew_of_not_isCurrent current compiled).1⟩

/-- Turning the camera of a session with a valid panel turns the observer to the
view. -/
theorem turnCamera_eq
    {session : Session α}
    {view : Grid α}
    {transform : Transform α}
    (valid : session.panel.Valid)
    (read : Transform.ofGrid view = .ok transform) :
    (session.turnCamera view).result = .ok transform ∧
      (session.turnCamera view).state =
        { session with
          observer :=
            (session.observer.turnTo transform session.panel).state } := by
  unfold turnCamera
  rw [read]
  rcases session.observer.turnTo_result_cases valid transform with turned |
    ⟨cause, kept⟩
  · simp [turned, Outcome.done]
  · simp [kept, Outcome.stopped]

/-- Publishing a session with a showable panel gives a frame. -/
theorem publish_eq
    {session : Session α}
    (showable : session.panel.Showable)
    (step : Number α) :
    ∃ frame,
      (session.publish step).result = .ok frame ∧
        (session.publish step).state =
          { session with
            program := (session.program.renew session.panel).state } ∧
        frame.properTimeStep = step ∧
        session.renderData = .ok frame.renderData ∧
        (session.program.renew session.panel).result = .ok frame.program? := by
  obtain ⟨data, gathered⟩ := session.exists_renderData_eq showable
  obtain ⟨fresh?, renewed⟩ := exists_renew_eq showable session.program
  refine ⟨⟨data, fresh?, step⟩, ?_, ?_, rfl, gathered, renewed⟩
  all_goals
    simp [publish, gathered, Outcome.andThen, Outcome.within, renewed,
      Outcome.done]

section ProduceFrame

variable {session : Session α} {elapsed : Value α} {view : Grid α}

/-- No frame is made when the observer cannot move on. -/
theorem produceFrame_of_advance_error
    {fault : Fault α}
    (valid : session.panel.Valid)
    (stopped :
      (session.observer.advance elapsed session.panel).result = .error fault) :
    (session.produceFrame elapsed view).result = .error fault ∧
      (session.produceFrame elapsed view).state = session := by
  have kept := Observer.advance_state_of_error valid.measured stopped
  simp [produceFrame, Outcome.andThen, Outcome.within, stopped, kept]

/-- No frame is made from a view that is no transform, but the observer has
moved on by then. -/
theorem produceFrame_of_view_error
    {fault : Fault α}
    {step : Number α}
    (moved : (session.observer.advance elapsed session.panel).result = .ok step)
    (unread : Transform.ofGrid view = .error fault) :
    (session.produceFrame elapsed view).result = .error fault ∧
      (session.produceFrame elapsed view).state =
        { session with
          observer :=
            (session.observer.advance elapsed session.panel).state } := by
  simp [produceFrame, turnCamera, Outcome.andThen, Outcome.within,
    Outcome.stopped, moved, unread]

/-- A frame is made when the observer moves on and the view is a transform. -/
theorem exists_frame_of_produceFrame
    {step : Number α}
    {transform : Transform α}
    (valid : session.panel.Valid)
    (moved : (session.observer.advance elapsed session.panel).result = .ok step)
    (read : Transform.ofGrid view = .ok transform) :
    ∃ frame,
      frame.properTimeStep = step ∧
        session.Frames (session.observer.advance elapsed session.panel).state
        transform frame ∧
        (session.produceFrame elapsed view).result = .ok frame ∧
        (session.produceFrame elapsed view).state =
          session.shown (session.observer.advance elapsed session.panel).state
            transform := by
  let reached : Session α :=
    { session with
      observer := (session.observer.advance elapsed session.panel).state }
  have turned : (reached.turnCamera view).result = .ok transform ∧
      (reached.turnCamera view).state =
        { reached with
          observer :=
            (reached.observer.turnTo transform session.panel).state } :=
    turnCamera_eq valid read
  let looking : Session α :=
    { reached with
      observer := (reached.observer.turnTo transform session.panel).state
      lastView? := some transform }
  have showable : looking.panel.Showable := valid.showable
  obtain ⟨frame, published, left, timed, gathered, renewed⟩ :=
    looking.publish_eq showable step
  refine ⟨frame, timed, ⟨gathered, renewed⟩, ?_, ?_⟩
  · have result : (session.produceFrame elapsed view).result =
        (looking.publish step).result := by
      simp [produceFrame, Outcome.andThen, Outcome.within, moved, turned.1,
        turned.2, reached, looking]
    rw [result, published]
  · have state :
        (session.produceFrame elapsed view).state =
          (looking.publish step).state := by
      simp [produceFrame, Outcome.andThen, Outcome.within, moved, turned.1,
        turned.2, reached, looking]
    rw [state, left]
    rfl

end ProduceFrame

/-- Turning the camera changes the observer at most, and gives the transform of
the view. -/
theorem turnCamera_scene (session : Session α) (view : Grid α) :
    (∃ observer,
      (session.turnCamera view).state = { session with observer }) ∧
      ∀ transform, (session.turnCamera view).result = .ok transform →
        Transform.ofGrid view = .ok transform := by
  unfold turnCamera
  cases Transform.ofGrid view with
  | error fault =>
      refine ⟨⟨session.observer, rfl⟩, ?_⟩
      intro transform turned
      cases turned
  | ok read =>
      dsimp only
      split
      · exact ⟨⟨_, rfl⟩, fun _ turned => turned⟩
      · exact ⟨⟨_, rfl⟩, fun _ turned => turned⟩
      · refine ⟨⟨_, rfl⟩, ?_⟩
        intro transform turned
        cases turned

/-- Making a frame stops before a view is remembered, or comes down to
publishing the session that remembers it. -/
theorem produceFrame_cases
    (session : Session α)
    (elapsed : Value α)
    (view : Grid α) :
    let made := session.produceFrame elapsed view
    (∃ fault observer,
      made.result = .error fault ∧ made.state = { session with observer }) ∨
    ∃ transform observer step,
      Transform.ofGrid view = .ok transform ∧
      let looking := { session with observer, lastView? := some transform }
      made.result = (looking.publish step).result ∧
        made.state = (looking.publish step).state := by
  dsimp only
  unfold produceFrame
  dsimp only
  cases moved : (session.observer.advance elapsed session.panel).result with
  | error fault =>
      refine .inl
        ⟨fault, (session.observer.advance elapsed session.panel).state, ?_⟩
      simp [Outcome.andThen, Outcome.within, moved]
  | ok step =>
      let reached : Session α :=
        { session with
          observer := (session.observer.advance elapsed session.panel).state }
      obtain ⟨⟨observer, left⟩, reads⟩ := reached.turnCamera_scene view
      cases turned : (reached.turnCamera view).result with
      | error fault =>
          refine .inl ⟨fault, observer, ?_⟩
          simp [Outcome.andThen, Outcome.within, moved, turned, left, reached]
      | ok transform =>
          refine .inr
            ⟨transform, observer, step, reads transform turned, ?_⟩
          simp [Outcome.andThen, Outcome.within, moved, turned, left, reached]

/-- Publishing changes nothing but the program, which is renewed if it changes.
-/
theorem publish_state (session : Session α) (step : Number α) :
    (session.publish step).state = session ∨
      (session.publish step).state =
        { session with
          program := (session.program.renew session.panel).state } := by
  unfold publish
  cases session.renderData with
  | error fault => exact .inl rfl
  | ok data =>
      right
      cases renewed : (session.program.renew session.panel).result with
      | error fault => simp [Outcome.andThen, Outcome.within, renewed]
      | ok fresh? =>
          simp [Outcome.andThen, Outcome.within, renewed, Outcome.done]

/-- A step of a session with a valid queue drains it, and then stops for want of
a view, or gives no frame, or goes on to make one. -/
theorem step_cases
    {session : Session α}
    (valid : session.queue.Valid)
    (elapsed : Value α)
    (view? : Option (Grid α)) :
    let stepped := session.step elapsed view?
    (∃ fault,
      (session.drained.chooseView view? = .error fault ∨
        ∃ view, session.drained.chooseView view? = .ok view ∧
          session.drained.needsFrame session.report view = .error fault) ∧
      stepped.result = .error fault ∧ stepped.state = session.drained) ∨
    (∃ view, session.drained.chooseView view? = .ok view ∧
      session.drained.needsFrame session.report view = .ok false ∧
      stepped.result = .ok none ∧ stepped.state = session.drained) ∨
    ∃ view, session.drained.chooseView view? = .ok view ∧
      session.drained.needsFrame session.report view = .ok true ∧
      stepped.result =
        (session.drained.produceFrame elapsed view).result.map some ∧
      stepped.state = (session.drained.produceFrame elapsed view).state := by
  obtain ⟨reported, drained⟩ := session.drain_eq valid
  unfold step
  dsimp only
  rw [(Outcome.andThen_of_ok reported _).1,
    (Outcome.andThen_of_ok reported _).2, drained]
  cases chosen : session.drained.chooseView view? with
  | error fault => exact .inl ⟨fault, .inl rfl, rfl, rfl⟩
  | ok view =>
      dsimp only
      cases called : session.drained.needsFrame session.report view with
      | error fault =>
          exact .inl ⟨fault, .inr ⟨view, rfl, called⟩, rfl, rfl⟩
      | ok needed =>
          cases needed with
          | false => exact .inr (.inl ⟨view, rfl, called, rfl, rfl⟩)
          | true =>
              refine .inr (.inr ⟨view, rfl, called, ?_⟩)
              rw [Outcome.andThen_done]
              exact ⟨rfl, rfl⟩

/-- Whatever becomes of a step, it drains the queue, and observer, program and
last view are all that it changes besides. -/
theorem step_scene
    {session : Session α}
    (valid : session.queue.Valid)
    (elapsed : Value α)
    (view? : Option (Grid α)) :
    ∃ observer program lastView?,
      (session.step elapsed view?).state =
        { session.drained with observer, program, lastView? } := by
  rcases step_cases valid elapsed view? with
    ⟨_, _, _, left⟩ | ⟨_, _, _, _, left⟩ | ⟨view, _, _, _, left⟩
  · exact ⟨_, _, _, left⟩
  · exact ⟨_, _, _, left⟩
  · rw [left]
    rcases session.drained.produceFrame_cases elapsed view with
      ⟨_, observer, _, stopped⟩ |
        ⟨transform, observer, step, _, _, published⟩
    · exact ⟨_, _, _, stopped⟩
    · rw [published]
      rcases publish_state
        { session.drained with observer, lastView? := some transform } step
        with kept | renewed
      · exact ⟨_, _, _, kept⟩
      · exact ⟨_, _, _, renewed⟩

/-- Every step of a valid session ends in one of these ways. -/
theorem Valid.step_ends
    {session : Session α}
    (valid : session.Valid)
    (elapsed : Value α)
    (view? : Option (Grid α)) :
    session.StepEnds elapsed view? (session.step elapsed view?).result
      (session.step elapsed view?).state := by
  have panel : session.drained.panel.Valid := valid.drained.panel
  rcases step_cases valid.queue elapsed view? with
    ⟨fault, cause, result, state⟩ |
      ⟨view, chosen, called, result, state⟩ |
      ⟨view, chosen, called, result, state⟩
  · rw [result, state]
    exact .unseen cause
  · rw [result, state]
    exact .idle chosen called
  · rw [result, state]
    cases moved :
      (session.observer.advance elapsed session.drained.panel).result with
    | error fault =>
        have made :
            (session.drained.produceFrame elapsed view).result =
              .error fault ∧
            (session.drained.produceFrame elapsed view).state =
              session.drained :=
          produceFrame_of_advance_error panel moved
        rw [made.1, made.2]
        exact .held chosen called moved
    | ok step =>
        cases read : Transform.ofGrid view with
        | error fault =>
            have made := produceFrame_of_view_error moved read
            rw [made.1, made.2]
            exact .blind chosen called moved read
        | ok transform =>
            obtain ⟨frame, timed, frames, made, left⟩ :=
              exists_frame_of_produceFrame panel moved read
            rw [made, left]
            exact .framed chosen called (timed ▸ moved) read frames

end Session

end BlackHoleScene
