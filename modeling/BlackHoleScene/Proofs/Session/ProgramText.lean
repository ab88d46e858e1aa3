import BlackHoleScene.Proofs.Session.History

/-!
# The program text of the host

A host installs every program text that it is handed, by a frame or on request.
Unless the program is stale, the text installed last is the one that the panel
gives: `Session.InStep` says so, and every operation keeps it, also a step that
stops after it drained the queue. After a step that did not stop and after a
request the program is not stale, so the host then runs the text of the panel.
-/

namespace BlackHoleScene

variable {α : Type} [Scalar α]

omit [Scalar α] in
/-- The program text that a reply hands out. -/
def Reply.programText? : Reply α → Option String
  | .text characters => some characters
  | .frame (some update) => update.program?
  | _ => none

/-- The program text that an operation hands out. -/
def Event.programText? (event : Event α) : Option String :=
  match event.outcome.result with
  | .ok reply => reply.programText?
  | .error _ => none

/-- Input hands out no program text. -/
theorem Event.programText?_of_isInput
    (session : Session α)
    {operation : Operation α}
    (input : operation.isInput = true) :
    Event.programText? ⟨session, operation⟩ = none := by
  unfold Event.programText? Event.outcome
  split
  · next reply replied =>
      have acknowledged := Session.isAcknowledgement_of_perform input replied
      cases reply <;> first | rfl | cases acknowledged
  · rfl

namespace Session

/-- The program text that the host has installed after a run: the last one that
was handed out. -/
def installedText?
    (session : Session α)
    (operations : List (Operation α)) : Option String :=
  latest? Event.programText? session operations

/-- Unless the program of a stencil is stale, its text is that of the panel, and
is installed. -/
structure InStep
    (stencil : Stencil)
    (installed? : Option String)
    (session : Session α) : Prop where
  valid : session.Valid
  stencil_eq : session.program.stencil = stencil
  text :
    session.program.isStale = false →
      ∃ text, installed? = some text ∧ session.program.text? = some text ∧
        stencil.compile session.panel = .ok text

namespace InStep

variable {stencil : Stencil} {installed? : Option String} {session : Session α}

/-- A drain marks the program stale when the panel stops to give its text. -/
theorem drained (inStep : InStep stencil installed? session) :
    InStep stencil installed? session.drained where
  valid := inStep.valid.drained
  stencil_eq := inStep.stencil_eq
  text := by
    intro fresh
    have kept :
        session.program.isStale = false ∧
          session.report.needsCompile = false := by
      simpa [Session.drained] using fresh
    obtain ⟨text, installed, held, compiled⟩ := inStep.text kept.1
    refine ⟨text, installed, held, ?_⟩
    rw [stencil.compile_congr (agreeOnProgram_drained kept.2)]
    exact compiled

/-- A renewed program is not stale, and hands out the text of the panel if that
is not installed yet. -/
theorem renew
    (inStep : InStep stencil installed? session)
    {fresh? : Option String}
    (renewed : (session.program.renew session.panel).result = .ok fresh?) :
    (session.program.renew session.panel).state.stencil = stencil ∧
      (session.program.renew session.panel).state.isStale = false ∧
      ∃ text, fresh?.or installed? = some text ∧
        (session.program.renew session.panel).state.text? = some text ∧
        stencil.compile session.panel = .ok text := by
  by_cases current : session.program.IsCurrent
  · have unchanged := Program.renew_of_isCurrent current session.panel
    obtain ⟨text, installed, held, compiled⟩ := inStep.text current.1
    rw [unchanged] at renewed ⊢
    cases renewed
    exact ⟨inStep.stencil_eq, current.1, text, installed, held, compiled⟩
  · obtain ⟨text, compiled⟩ :=
      stencil.exists_compile_eq inStep.valid.panel.steps_eq
    have made :=
      Program.renew_of_not_isCurrent current (inStep.stencil_eq ▸ compiled)
    rw [made.1] at renewed
    cases renewed
    rw [made.2]
    exact ⟨inStep.stencil_eq, rfl, text, rfl, rfl, compiled⟩

/-- A step that stops hands out nothing, and keeps host and panel in step. -/
theorem of_stopped
    (inStep : InStep stencil installed? session)
    {elapsed : Value α}
    {view? : Option (Grid α)}
    {fault : Fault α}
    {reached : Session α}
    (ends : session.StepEnds elapsed view? (.error fault) reached) :
    InStep stencil installed? reached := by
  have valid := ends.valid inStep.valid
  have drained := inStep.drained
  cases ends with
  | unseen => exact drained
  | held => exact drained
  | blind => exact ⟨valid, drained.stencil_eq, drained.text⟩

/-- A step that does not stop leaves the program fresh, and keeps host and panel
in step. -/
theorem of_answered
    (inStep : InStep stencil installed? session)
    {elapsed : Value α}
    {view? : Option (Grid α)}
    {update? : Option (Frame α)}
    {reached : Session α}
    (ends : session.StepEnds elapsed view? (.ok update?) reached) :
    reached.program.isStale = false ∧
      InStep
        stencil ((Reply.frame update?).programText?.or installed?) reached := by
  have valid := ends.valid inStep.valid
  have drained := inStep.drained
  cases ends with
  | idle chosen uncalled =>
      exact ⟨(needsFrame_eq_false uncalled).2.1, drained⟩
  | framed chosen called moved read frames =>
      obtain ⟨stencil_eq, fresh, made⟩ := drained.renew frames.program?
      exact ⟨fresh, valid, stencil_eq, fun _ => made⟩

/-- A request for the program text keeps host and panel in step and leaves the
program fresh. -/
theorem fetchProgram (inStep : InStep stencil installed? session) :
    ∃ text, session.fetchProgram.result = .ok text ∧
      session.fetchProgram.state.program.isStale = false ∧
      InStep stencil (some text) session.fetchProgram.state := by
  obtain ⟨fresh?, renewed⟩ :=
    exists_renew_eq inStep.valid.panel.showable session.program
  obtain ⟨fetched, left⟩ := Program.fetch_of_renew renewed
  obtain ⟨stencil_eq, fresh, text, handed, held, compiled⟩ :=
    inStep.renew renewed
  have reached : session.fetchProgram.state =
      { session with
        program := (session.program.renew session.panel).state } := by
    rw [Session.fetchProgram, Outcome.within, left]
  have same :
      (fresh?.or (session.program.renew session.panel).state.text?).getD "" =
        text := by
    cases fresh? with
    | none => simp [held]
    | some made => simpa using handed
  rw [same] at fetched
  rw [reached]
  refine ⟨text, fetched, fresh, ?_, stencil_eq,
    fun _ => ⟨text, rfl, held, compiled⟩⟩
  exact ⟨inStep.valid.panel, inStep.valid.queue, inStep.valid.resumeScale⟩

/-- Every operation keeps host and panel in step. -/
theorem perform
    (inStep : InStep stencil installed? session)
    (operation : Operation α) :
    InStep stencil ((Event.programText? ⟨session, operation⟩).or installed?)
      (session.perform operation).state := by
  have valid := inStep.valid.perform operation
  cases operation using Operation.inputCases with
  | input operation input =>
      have scene := session.sameScene_perform input
      rw [Event.programText?_of_isInput session input, Option.none_or]
      refine ⟨valid, scene.program ▸ inStep.stencil_eq, ?_⟩
      rw [scene.program, scene.panel]
      exact inStep.text
  | markStale =>
      refine ⟨valid, inStep.stencil_eq, ?_⟩
      intro fresh
      cases fresh
  | fetchProgram =>
      obtain ⟨text, fetched, _, kept⟩ := inStep.fetchProgram
      have handed :
          Event.programText? ⟨session, .fetchProgram⟩ = some text := by
        simp [Event.programText?, Event.outcome, fetched, Except.map,
          Reply.programText?]
      rw [handed, Option.some_or, perform_fetchProgram]
      exact kept
  | step elapsed view? =>
      have ends := inStep.valid.step_ends elapsed view?
      simp only [Event.programText?, Event.outcome, perform_step]
      generalize (session.step elapsed view?).result = result,
        (session.step elapsed view?).state = reached at ends ⊢
      cases result with
      | error fault => exact inStep.of_stopped ends
      | ok update? => exact (inStep.of_answered ends).2

/-- A session begins in step: its program is stale. -/
theorem opening
    (stencilText : String)
    {panel : Panel α}
    (valid : panel.Valid)
    (settings : Settings α)
    (observer : Observer α) :
    InStep (.ofString stencilText) none
      (Session.opening stencilText panel settings observer) where
  valid := valid_opening stencilText valid settings observer
  stencil_eq := rfl
  text := by
    intro fresh
    cases fresh

end InStep

/-- Every run keeps host and panel in step. -/
theorem inStep_run
    (stencilText : String)
    {panel : Panel α}
    (valid : panel.Valid)
    (settings : Settings α)
    (observer : Observer α)
    (operations : List (Operation α)) :
    let session := opening stencilText panel settings observer
    InStep (.ofString stencilText) (session.installedText? operations)
      (session.run operations) := by
  intro session
  refine session.run_induction
    (motive := fun before reached =>
      InStep (.ofString stencilText) (session.installedText? before) reached)
    (InStep.opening stencilText valid settings observer) ?_ operations
  intro before operation inStep
  rw [installedText?, latest?_concat]
  exact inStep.perform operation

/-- The operation is a request for the program text, or a step that does not
stop. -/
def Answers (session : Session α) (operation : Operation α) : Prop :=
  operation = .fetchProgram ∨
    ∃ elapsed view?,
      operation = .step elapsed view? ∧
        (session.step elapsed view?).result.isOk

/-- After such an operation the program is fresh. -/
theorem InStep.fresh_of_answers
    {stencil : Stencil}
    {installed? : Option String}
    {session : Session α}
    (inStep : InStep stencil installed? session)
    {operation : Operation α}
    (answers : session.Answers operation) :
    (session.perform operation).state.program.isStale = false := by
  rcases answers with rfl | ⟨elapsed, view?, rfl, answered⟩
  · obtain ⟨_, _, fresh, _⟩ := inStep.fetchProgram
    rw [perform_fetchProgram]
    exact fresh
  · have ends := inStep.valid.step_ends elapsed view?
    rw [perform_step]
    generalize (session.step elapsed view?).result = result at answered ends
    cases result with
    | error fault => cases answered
    | ok update? => exact (inStep.of_answered ends).1

/-- After a step that did not stop, and after a request for the program text,
the host has installed the text that the stencil gives for the panel, whatever
was done before. -/
theorem compile_eq_installedText?
    (stencilText : String)
    {panel : Panel α}
    (valid : panel.Valid)
    (settings : Settings α)
    (observer : Observer α)
    (before : List (Operation α))
    {operation : Operation α}
    (answers :
      ((opening stencilText panel settings observer).run before).Answers
        operation) :
    let session := opening stencilText panel settings observer
    let reached := session.run (before ++ [operation])
    ∃ text, session.installedText? (before ++ [operation]) = some text ∧
      (Stencil.ofString stencilText).compile reached.panel = .ok text := by
  intro session reached
  have inStep :=
    inStep_run stencilText valid settings observer (before ++ [operation])
  have fresh : reached.program.isStale = false := by
    have earlier := inStep_run stencilText valid settings observer before
    simp only [reached, run_append, run_cons, run_nil]
    exact earlier.fresh_of_answers answers
  obtain ⟨text, installed, _, compiled⟩ := inStep.text fresh
  exact ⟨text, installed, compiled⟩

/-- The tier is raised, the next step stops after its drain, and the one after
it hands out the new text. -/
theorem compile_eq_installedText?_of_stopped_between :
    let straight : Grid Float := (Transform.ofTurn Mat3.identity).toGrid
    let session :=
      opening "steps \x7b\x7bn_steps\x7d\x7d" Panel.resting .initial .start
    let before : List (Operation Float) :=
      [.fetchProgram, .enqueue "quality" (.text "high"),
        .step (.real (-1.0)) (some straight)]
    let next : Operation Float := .step (.real 0.5) (some straight)
    (Panel.resting : Panel Float).Valid ∧
      (session.run before).Answers next ∧
      ∃ text, session.installedText? (before ++ [next]) = some text ∧
        (Stencil.ofString "steps \x7b\x7bn_steps\x7d\x7d").compile
          (session.run (before ++ [next])).panel = .ok text := by
  intro straight session before next
  have answers : (session.run before).Answers next :=
    .inr ⟨.real 0.5, some straight, rfl, by decide +kernel⟩
  exact ⟨Panel.valid_resting, answers,
    compile_eq_installedText?
      _ Panel.valid_resting .initial .start before answers⟩

end Session
end BlackHoleScene
