import BlackHoleScene.Proofs.Session.ProperTime
import BlackHoleScene.Proofs.Session.SkippedStep

/-!
# When the program text is made

A program text is made when one is needed, and only then. Along a run, each text
that is made and each notice that the text may not follow the panel any more
leaves a mark. The program is stale exactly if nothing has been made, or a
notice came after the text made last: `Program.Tracks`. A step that gives a
frame makes a text exactly if the program is stale once the queue is drained,
and a request for the text if it is stale before it. Nothing else makes one, and
the program counts them: `Session.compiles_as_needed_of_run`.
-/

namespace BlackHoleScene

/-! ### Texts that operations make -/

/-- The program text that an entry reports to be made. -/
def LogEntry.programText? {α : Type} : LogEntry α → Option String
  | .compiled _ text _ _ => some text
  | _ => none

namespace Outcome

variable {α σ τ ρ π : Type}

/-- The program texts that an operation made, in order. -/
def texts (outcome : Outcome α σ ρ) : List String :=
  outcome.log.filterMap LogEntry.programText?

@[simp] theorem texts_done (state : σ) (result : ρ) :
    (done state result : Outcome α σ ρ).texts = [] := rfl

@[simp] theorem texts_stopped (state : σ) (fault : Fault α) :
    (stopped state fault : Outcome α σ ρ).texts = [] := rfl

@[simp] theorem texts_within (inner : Outcome α σ ρ) (embed : σ → τ) :
    (inner.within embed).texts = inner.texts := rfl

/-- What follows a result adds its texts. -/
theorem texts_andThen_of_ok
    {first : Outcome α σ ρ}
    {result : ρ}
    (reached : first.result = .ok result)
    (next : σ → ρ → Outcome α σ π) :
    (first.andThen next).texts =
      first.texts ++ (next first.state result).texts := by
  simp [texts, andThen, reached]

/-- After an operation that stopped, no more texts are made. -/
theorem texts_andThen_of_error
    {first : Outcome α σ ρ}
    {fault : Fault α}
    (stopped : first.result = .error fault)
    (next : σ → ρ → Outcome α σ π) :
    (first.andThen next).texts = first.texts := by
  simp [texts, andThen, stopped]

/-- What makes no text may follow. -/
theorem texts_andThen_of_silent
    {next : σ → ρ → Outcome α σ π}
    (silent : ∀ state result, (next state result).texts = [])
    (first : Outcome α σ ρ) :
    (first.andThen next).texts = first.texts := by
  cases reached : first.result with
  | error fault => exact texts_andThen_of_error reached next
  | ok result => rw [texts_andThen_of_ok reached, silent, List.append_nil]

end Outcome

variable {α : Type} [Scalar α]

/-- A renewal leaves a current program as it is. Any other takes the text of the
panel, which is the one text that is made, unless the panel gives none. -/
theorem Program.renew_cases (program : Program) (panel : Panel α) :
    (program.IsCurrent ∧ program.renew panel = .done program none) ∨
    (¬program.IsCurrent ∧ ∃ fault,
      program.stencil.compile panel = .error fault ∧
        program.renew panel = .stopped program fault) ∨
    ¬program.IsCurrent ∧ ∃ text,
      program.stencil.compile panel = .ok text ∧
        (program.renew panel).result = .ok (some text) ∧
        (program.renew panel).state = program.withText text ∧
        (program.renew panel).texts = [text] := by
  by_cases current : program.IsCurrent
  · exact .inl ⟨current, renew_of_isCurrent current panel⟩
  have renews : (!program.isStale && program.text?.isSome) = false := by
    simpa [IsCurrent] using current
  right
  cases compiled : program.stencil.compile panel with
  | error fault =>
      exact .inl ⟨current, fault, rfl, by simp [renew, renews, compiled]⟩
  | ok text =>
      obtain ⟨result, state⟩ := renew_of_not_isCurrent current compiled
      refine .inr ⟨current, text, rfl, result, state, ?_⟩
      simp [renew, renews, compiled, Outcome.texts, LogEntry.programText?]

/-- The texts of a renewal are what it results in. -/
theorem Program.texts_renew
    {program : Program}
    {panel : Panel α}
    {fresh? : Option String}
    (renewed : (program.renew panel).result = .ok fresh?) :
    (program.renew panel).texts = fresh?.toList := by
  rcases program.renew_cases panel with
    ⟨_, kept⟩ | ⟨_, fault, _, stopped⟩ |
      ⟨_, text, _, made, _, texts⟩
  · rw [kept] at renewed ⊢
    cases renewed
    rfl
  · rw [stopped] at renewed
    cases renewed
  · cases made.symm.trans renewed
    exact texts

/-- A renewal that stops leaves the program and makes no text. -/
theorem Program.renew_of_error
    {program : Program}
    {panel : Panel α}
    {fault : Fault α}
    (stopped : (program.renew panel).result = .error fault) :
    program.renew panel = .stopped program fault := by
  rcases program.renew_cases panel with ⟨_, kept⟩ |
    ⟨_, other, _, left⟩ | ⟨_, text, _, made, _⟩
  · rw [kept] at stopped
    cases stopped
  · rw [left] at stopped ⊢
    cases stopped
    rfl
  · cases made.symm.trans stopped

/-- An observer that moves on makes no text. -/
theorem Observer.texts_advance
    (observer : Observer α)
    (elapsed : Value α)
    (panel : Panel α) :
    (observer.advance elapsed panel).texts = [] := by
  unfold advance
  split
  · rfl
  · dsimp only
    split <;> rfl

namespace Session

/-- A drain makes no text. -/
theorem texts_drain
    {session : Session α}
    (valid : session.queue.Valid) :
    session.drain.texts = [] := by
  rw [drain, Outcome.texts_andThen_of_silent fun _ _ => rfl,
    Outcome.texts_within, ChangeQueue.drain_eq valid session.panel]
  simp [Outcome.texts, LogEntry.programText?]

/-- Turning the camera makes no text. -/
theorem texts_turnCamera (session : Session α) (view : Grid α) :
    (session.turnCamera view).texts = [] := by
  unfold turnCamera
  split
  · rfl
  · dsimp only
    split <;> rfl

/-- The outcome of making a frame is a frame with what a renewal of the program
results in, or leaves the program. -/
def Renews
    (session : Session α)
    (outcome : Outcome α (Session α) (Frame α)) : Prop :=
  match outcome.result with
  | .error _ => outcome.state.program = session.program ∧ outcome.texts = []
  | .ok frame =>
      (session.program.renew session.panel).result = .ok frame.program? ∧
        outcome.state.program = (session.program.renew session.panel).state ∧
        outcome.texts = frame.program?.toList

/-- What comes before and leaves program and panel does not count. -/
theorem Renews.andThen
    {ρ : Type}
    {session : Session α}
    {first : Outcome α (Session α) ρ}
    {next : Session α → ρ → Outcome α (Session α) (Frame α)}
    (program : first.state.program = session.program)
    (panel : first.state.panel = session.panel)
    (silent : first.texts = [])
    (renews : ∀ result, first.state.Renews (next first.state result)) :
    session.Renews (first.andThen next) := by
  cases reached : first.result with
  | error fault =>
      rw [Renews, (Outcome.andThen_of_error reached next).1]
      exact ⟨(Outcome.andThen_of_error reached next).2 ▸ program,
        (Outcome.texts_andThen_of_error reached next).trans silent⟩
  | ok result =>
      have later := renews result
      obtain ⟨same, left⟩ := Outcome.andThen_of_ok reached next
      have texts := Outcome.texts_andThen_of_ok reached next
      rw [silent, List.nil_append] at texts
      rwa [Renews, program, panel, ← same, ← left, ← texts] at later

/-- Publishing renews the program. -/
theorem renews_publish (session : Session α) (step : Number α) :
    session.Renews (session.publish step) := by
  unfold publish
  cases session.renderData with
  | error fault => exact ⟨rfl, rfl⟩
  | ok data =>
      cases renewed : (session.program.renew session.panel).result with
      | error fault =>
          have stopped := Program.renew_of_error renewed
          simp [Renews, Outcome.andThen, Outcome.within, stopped,
            Outcome.stopped, Outcome.texts]
      | ok fresh? =>
          have texts := Program.texts_renew renewed
          simpa [Renews, Outcome.andThen, Outcome.within, renewed, Outcome.done,
            Outcome.texts]
            using texts

/-- Making a frame renews the program. -/
theorem renews_produceFrame
    (session : Session α)
    (elapsed : Value α)
    (view : Grid α) :
    session.Renews (session.produceFrame elapsed view) := by
  apply Renews.andThen rfl rfl
    (session.observer.texts_advance elapsed session.panel)
  intro step
  obtain ⟨⟨observer, turned⟩, _⟩ := turnCamera_scene
    { session with
      observer := (session.observer.advance elapsed session.panel).state } view
  apply Renews.andThen (congrArg program turned) (congrArg panel turned)
    (texts_turnCamera _ view)
  intro transform
  exact renews_publish _ step

/-- A step that gives a frame renews the program after its drain. Any other step
leaves the program as the drain did, and makes no text. -/
theorem step_renews
    {session : Session α}
    (valid : session.queue.Valid)
    (elapsed : Value α)
    (view? : Option (Grid α)) :
    let stepped := session.step elapsed view?
    match stepped.result with
    | .ok (some frame) =>
        (session.drained.program.renew session.drained.panel).result =
          .ok frame.program? ∧
          stepped.state.program =
            (session.drained.program.renew session.drained.panel).state ∧
          stepped.texts = frame.program?.toList
    | _ =>
        stepped.state.program = session.drained.program ∧
          stepped.texts = [] := by
  obtain ⟨reported, drained⟩ := session.drain_eq valid
  unfold step
  dsimp only
  rw [(Outcome.andThen_of_ok reported _).1,
    (Outcome.andThen_of_ok reported _).2, Outcome.texts_andThen_of_ok reported,
    texts_drain valid, List.nil_append, drained]
  cases session.drained.chooseView view? with
  | error fault => exact ⟨rfl, rfl⟩
  | ok view =>
      dsimp only
      cases session.drained.needsFrame session.report view with
      | error fault => exact ⟨rfl, rfl⟩
      | ok needed =>
          cases needed with
          | false => exact ⟨rfl, rfl⟩
          | true =>
              have renews := session.drained.renews_produceFrame elapsed view
              dsimp only
              rw [Outcome.texts_andThen_of_silent fun _ _ => rfl,
                Outcome.andThen_done]
              unfold Renews at renews
              cases made :
                (session.drained.produceFrame elapsed view).result with
              | error fault =>
                  rw [made] at renews
                  exact renews
              | ok frame =>
                  rw [made] at renews
                  exact renews

end Session

/-! ### Marks along a run -/

/-- What a run leaves behind that bears on the program text. -/
inductive Mark
  /-- The text may not follow the panel any more. -/
  | notice
  | made (text : String)

namespace Mark

/-- The text that a mark tells of. -/
def text? : Mark → Option String
  | .notice => none
  | .made text => some text

/-- Nothing was made, or a notice came after what was made last. -/
def Outdated (marks : List Mark) : Prop :=
  (∀ text, .made text ∉ marks) ∨
    ∃ before after,
      marks = before ++ .notice :: after ∧ ∀ text, .made text ∉ after

theorem outdated_nil : Outdated [] := .inl fun _ => List.not_mem_nil

theorem outdated_concat_notice (marks : List Mark) :
    Outdated (marks ++ [.notice]) :=
  .inr ⟨marks, [], rfl, fun _ => List.not_mem_nil⟩

theorem not_outdated_concat_made (marks : List Mark) (text : String) :
    ¬Outdated (marks ++ [.made text]) := by
  rintro (none | ⟨before, after, split, none⟩)
  · exact none text (List.mem_append_right marks List.mem_cons_self)
  · rcases List.eq_nil_or_concat after with rfl | ⟨rest, last, rfl⟩
    · cases (List.append_inj' split rfl).2
    · rw [List.concat_eq_append, ← List.cons_append,
        ← List.append_assoc] at split
      cases (List.append_inj' split rfl).2
      exact none text (by simp)

end Mark

namespace Program

variable {program : Program} {marks : List Mark}

/-- The program is stale exactly if the marks say that it is outdated, has a
text unless it is stale, and counts the texts that were made. -/
structure Tracks (marks : List Mark) (program : Program) : Prop where
  stale : program.isStale = true ↔ Mark.Outdated marks
  text : program.isStale = false → program.text?.isSome
  count : program.timesCompiled = (marks.filterMap Mark.text?).length

namespace Tracks

/-- A program is current unless it is stale. -/
theorem isCurrent_iff (tracks : program.Tracks marks) :
    program.IsCurrent ↔ program.isStale = false :=
  ⟨And.left, fun fresh => ⟨fresh, tracks.text fresh⟩⟩

/-- A notice makes the program stale. -/
theorem markStale (tracks : program.Tracks marks) :
    program.markStale.Tracks (marks ++ [.notice]) where
  stale := iff_of_true rfl (Mark.outdated_concat_notice marks)
  text := nofun
  count := by
    rw [List.filterMap_append, List.length_append]
    exact tracks.count

/-- A text that is made is counted, and not outdated. -/
theorem withText (tracks : program.Tracks marks) (text : String) :
    (program.withText text).Tracks (marks ++ [.made text]) where
  stale :=
    iff_of_false Bool.false_ne_true (Mark.not_outdated_concat_made marks text)
  text := fun _ => rfl
  count := by simpa [Mark.text?, Program.withText] using tracks.count

/-- A renewal marks the text that it makes. -/
theorem renewed
    (tracks : program.Tracks marks)
    {panel : Panel α}
    {fresh? : Option String}
    (renewed : (program.renew panel).result = .ok fresh?) :
    (program.renew panel).state.Tracks (marks ++ fresh?.toList.map .made) ∧
      (fresh?.isSome ↔ program.isStale = true) := by
  rcases program.renew_cases panel with
    ⟨current, kept⟩ | ⟨_, fault, _, stopped⟩ |
      ⟨outdated, text, _, made, left, _⟩
  · rw [kept] at renewed ⊢
    cases renewed
    have fresh : program.isStale = false := current.1
    refine ⟨?_, by simp [fresh]⟩
    rw [Option.toList_none, List.map_nil, List.append_nil]
    exact tracks
  · rw [stopped] at renewed
    cases renewed
  · cases made.symm.trans renewed
    rw [tracks.isCurrent_iff, Bool.not_eq_false] at outdated
    exact ⟨left ▸ tracks.withText text, by simp [outdated]⟩

end Tracks

end Program

/-- The operation takes the text for stale, or is a step whose drain reports
that a control changed that decides it. -/
def Event.isNotice (event : Event α) : Bool :=
  match event.operation with
  | .markStale => true
  | .step _ _ =>
      event.before.drain.result.toOption.any ChangeReport.needsCompile
  | _ => false

/-- The marks of an operation. A step drains the queue before it makes a text.
-/
def Event.marks (event : Event α) : List Mark :=
  (if event.isNotice then [.notice] else []) ++ event.outcome.texts.map .made

/-- A text is made by a step that gives a frame if the program is stale once the
queue is drained, and on request if it is stale before. -/
def Event.CompilesAsNeeded (event : Event α) : Prop :=
  match event.operation, event.outcome.result with
  | .step _ _, .ok (.frame (some frame)) =>
      event.outcome.texts = frame.program?.toList ∧
        (frame.program?.isSome ↔
          event.before.drain.state.program.isStale = true)
  | .fetchProgram, .ok (.text text) =>
      event.outcome.texts = if event.before.program.isStale then [text] else []
  | .fetchProgram, .error fault =>
      event.outcome.texts = [] ∧ event.before.program.isStale = true ∧
        event.before.program.stencil.compile event.before.panel = .error fault
  | _, _ => event.outcome.texts = []

/-- The operation makes a text as needed, and the program tracks the marks
before it and its own. -/
def Event.Tracked (marks : List Mark) (event : Event α) : Prop :=
  event.CompilesAsNeeded ∧
    event.outcome.state.program.Tracks (marks ++ event.marks)

namespace Session

/-- The marks that a run leaves behind, in order. -/
def marks
    (session : Session α)
    (operations : List (Operation α)) : List Mark :=
  (session.events operations).flatMap Event.marks

/-- The program texts that a run makes, in order. -/
def textsMade
    (session : Session α)
    (operations : List (Operation α)) : List String :=
  (session.events operations).flatMap fun event => event.outcome.texts

/-- The texts that the marks tell of are those that were made. -/
theorem filterMap_text?_marks
    (session : Session α)
    (operations : List (Operation α)) :
    (session.marks operations).filterMap Mark.text? =
      session.textsMade operations := by
  have told (event : Event α) :
      event.marks.filterMap Mark.text? = event.outcome.texts := by
    have made :
        (event.outcome.texts.map Mark.made).filterMap Mark.text? =
          event.outcome.texts := by
      rw [List.filterMap_map]
      exact List.filterMap_some
    rw [Event.marks, List.filterMap_append, made]
    cases event.isNotice <;> rfl
  rw [marks, textsMade, List.filterMap_flatMap]
  simp only [told]

section Perform

variable (session : Session α)

theorem texts_enqueue (path : String) (value : Value α) :
    (session.enqueue path value).texts = [] := by
  unfold enqueue
  split <;> rfl

/-- Input makes no text. -/
theorem texts_perform_of_isInput
    {operation : Operation α}
    (input : operation.isInput = true) :
    (session.perform operation).texts = [] := by
  cases operation with
  | enqueue path value =>
      rw [perform, Outcome.texts_andThen_of_silent fun _ _ => rfl]
      exact session.texts_enqueue path value
  | discardChanges => rfl
  | pauseOrResume =>
      rw [perform, Outcome.texts_andThen_of_silent fun _ _ => rfl]
      unfold pauseOrResume
      split <;>
        exact (Outcome.texts_andThen_of_silent (fun _ _ => rfl) _).trans
          (texts_enqueue ..)
  | markStale => cases input
  | fetchProgram => cases input
  | step elapsed view? => cases input

/-- A request makes the texts of a renewal. -/
theorem texts_perform_fetchProgram :
    (session.perform .fetchProgram).texts =
      (session.program.renew session.panel).texts := by
  rw [perform, Outcome.texts_andThen_of_silent fun _ _ => rfl, fetchProgram,
    Outcome.texts_within,
    Program.fetch, Outcome.texts_andThen_of_silent fun _ _ => rfl]

theorem texts_perform_step (elapsed : Value α) (view? : Option (Grid α)) :
    (session.perform (.step elapsed view?)).texts =
      (session.step elapsed view?).texts := by
  rw [perform, Outcome.texts_andThen_of_silent fun _ _ => rfl]

end Perform

section Tracks

variable {session : Session α} {marks : List Mark}
  (tracks : session.program.Tracks marks)
include tracks

/-- Input keeps the marks as they are. -/
theorem tracked_of_isInput
    {operation : Operation α}
    (input : operation.isInput = true) :
    Event.Tracked marks ⟨session, operation⟩ := by
  let event : Event α := ⟨session, operation⟩
  have silent : event.outcome.texts = [] :=
    session.texts_perform_of_isInput input
  have quiet : event.isNotice = false := by
    cases operation <;> first | rfl | cases input
  have unmarked : event.marks = [] := by simp [Event.marks, quiet, silent]
  have unchanged : event.outcome.state.program = session.program :=
    (session.sameScene_perform input).program
  constructor
  · cases operation <;> first | exact silent | cases input
  · rw [unmarked, unchanged, List.append_nil]
    exact tracks

/-- A request makes a text if the program is stale and the panel gives one. -/
theorem tracked_fetchProgram :
    Event.Tracked marks ⟨session, .fetchProgram⟩ := by
  let event : Event α := ⟨session, .fetchProgram⟩
  have texts :
      event.outcome.texts = (session.program.renew session.panel).texts :=
    session.texts_perform_fetchProgram
  have left :
      event.outcome.state.program =
        (session.program.renew session.panel).state := by
    rw [Event.outcome, perform_fetchProgram]
    exact session.program.fetch_state session.panel
  have result :
      event.outcome.result =
        (session.program.fetch session.panel).result.map .text := by
    rw [Event.outcome, perform_fetchProgram]
    rfl
  have marked : event.marks = event.outcome.texts.map .made := rfl
  rw [Event.Tracked, Event.CompilesAsNeeded, marked, left, result, texts]
  rcases session.program.renew_cases session.panel with
    ⟨current, kept⟩ | ⟨outdated, fault, compiled, stopped⟩ |
      ⟨outdated, text, _, made, state, one⟩
  · have fresh : session.program.isStale = false := current.1
    have renewed := congrArg Outcome.result kept
    rw [(Program.fetch_of_renew renewed).1, kept]
    refine ⟨by simp [fresh, Except.map], ?_⟩
    rw [Outcome.texts_done, List.map_nil, List.append_nil]
    exact tracks
  · rw [tracks.isCurrent_iff, Bool.not_eq_false] at outdated
    have ended :
        session.program.fetch session.panel =
          .stopped session.program fault := by
      rw [Program.fetch, stopped, Outcome.stopped_andThen]
    rw [ended, stopped]
    refine ⟨⟨rfl, outdated, compiled⟩, ?_⟩
    rw [Outcome.texts_stopped, List.map_nil, List.append_nil]
    exact tracks
  · rw [tracks.isCurrent_iff, Bool.not_eq_false] at outdated
    rw [(Program.fetch_of_renew made).1, one, state]
    exact ⟨by simp [outdated, Except.map], tracks.withText text⟩

/-- A drain that reports a change that decides the text is a notice. -/
theorem tracks_drained :
    session.drained.program.Tracks
      (marks ++ if session.report.needsCompile then [.notice] else []) := by
  cases decided : session.report.needsCompile with
  | true =>
      have stale : session.drained.program = session.program.markStale := by
        simp [drained, decided, Program.markStale]
      rw [stale]
      exact tracks.markStale
  | false =>
      have unchanged : session.drained.program = session.program := by
        simp [drained, decided]
      rw [unchanged]
      simpa using tracks

/-- A step makes a text if it gives a frame and the program is stale after its
drain. -/
theorem tracked_step
    (valid : session.queue.Valid)
    (elapsed : Value α)
    (view? : Option (Grid α)) :
    Event.Tracked marks ⟨session, .step elapsed view?⟩ := by
  let event : Event α := ⟨session, .step elapsed view?⟩
  obtain ⟨reported, drained⟩ := session.drain_eq valid
  have tracksDrained := tracks_drained tracks
  have renews := step_renews valid elapsed view?
  have texts : event.outcome.texts = (session.step elapsed view?).texts :=
    session.texts_perform_step elapsed view?
  have left : event.outcome.state = (session.step elapsed view?).state := by
    rw [Event.outcome, perform_step]
  have result :
      event.outcome.result =
        (session.step elapsed view?).result.map .frame := by
    rw [Event.outcome, perform_step]
  have noticed : event.isNotice = session.report.needsCompile := by
    change session.drain.result.toOption.any ChangeReport.needsCompile = _
    rw [reported]
    rfl
  rw [Event.Tracked, Event.CompilesAsNeeded, Event.marks, noticed, left, result,
    texts, ← List.append_assoc]
  dsimp only at renews
  cases ended : (session.step elapsed view?).result with
  | error fault =>
      rw [ended] at renews
      obtain ⟨kept, silent⟩ := renews
      rw [kept, silent]
      exact ⟨rfl, by simpa using tracksDrained⟩
  | ok update? =>
      rw [ended] at renews
      cases update? with
      | none =>
          obtain ⟨kept, silent⟩ := renews
          rw [kept, silent]
          exact ⟨rfl, by simpa using tracksDrained⟩
      | some frame =>
          obtain ⟨renewed, renewal, made⟩ := renews
          obtain ⟨tracksRenewed, needed⟩ := tracksDrained.renewed renewed
          rw [renewal, made]
          refine ⟨⟨rfl, ?_⟩, tracksRenewed⟩
          change _ ↔ session.drain.state.program.isStale = true
          rw [drained]
          exact needed

/-- Every operation makes a text as needed, and leaves its marks. -/
theorem tracked
    (valid : session.queue.Valid)
    (operation : Operation α) :
    Event.Tracked marks ⟨session, operation⟩ := by
  induction operation using Operation.inputCases with
  | input operation input => exact tracked_of_isInput tracks input
  | markStale => exact ⟨rfl, tracks.markStale⟩
  | fetchProgram => exact tracked_fetchProgram tracks
  | step elapsed view? => exact tracked_step tracks valid elapsed view?

end Tracks

/-- One more operation leaves its marks after those before it. -/
theorem marks_concat
    (session : Session α)
    (before : List (Operation α))
    (operation : Operation α) :
    session.marks (before ++ [operation]) =
      session.marks before ++
        Event.marks ⟨session.run before, operation⟩ := by
  rw [marks, events_concat, List.flatMap_append, List.flatMap_singleton, marks]

/-- The program tracks the marks of every run, and every operation makes a text
as needed. -/
theorem tracks_run
    {session : Session α}
    (tracks : session.program.Tracks [])
    (valid : session.queue.Valid)
    (operations : List (Operation α)) :
    (session.run operations).program.Tracks (session.marks operations) ∧
      ∀ event ∈ session.events operations, event.CompilesAsNeeded := by
  refine session.run_induction
    (motive := fun operations reached =>
      reached.program.Tracks (session.marks operations) ∧
        ∀ event ∈ session.events operations, event.CompilesAsNeeded)
    ⟨tracks, fun _ absent => absurd absent List.not_mem_nil⟩ ?concat
      operations
  case concat =>
    rintro before operation ⟨tracksBefore, compiled⟩
    have queue := valid_queue_run valid before
    obtain ⟨compiles, tracksAfter⟩ := tracked tracksBefore queue operation
    rw [marks_concat, events_concat]
    refine ⟨tracksAfter, fun event member => ?_⟩
    rcases List.mem_append.1 member with earlier | last
    · exact compiled event earlier
    · rw [List.mem_singleton.1 last]
      exact compiles

omit [Scalar α] in
/-- A program whose text was never made is stale, and tracks that nothing was
marked. -/
theorem tracks_opening
    (stencilText : String)
    (panel : Panel α)
    (settings : Settings α)
    (observer : Observer α) :
    (opening stencilText panel settings observer).program.Tracks [] where
  stale := iff_of_true rfl Mark.outdated_nil
  text := nofun
  count := rfl

/-- After every run of a session, the program is stale exactly if no text was
made since it was last taken for stale. Every operation makes a text exactly if
it needs one, and the texts are counted. -/
theorem compiles_as_needed_of_run
    (stencilText : String)
    (panel : Panel α)
    (settings : Settings α)
    (observer : Observer α)
    (operations : List (Operation α)) :
    let start := opening stencilText panel settings observer
    let reached := start.run operations
    (reached.program.isStale = true ↔
      Mark.Outdated (start.marks operations)) ∧
      reached.program.timesCompiled = (start.textsMade operations).length ∧
      ∀ event ∈ start.events operations, event.CompilesAsNeeded := by
  intro start reached
  have tracksStart := tracks_opening stencilText panel settings observer
  obtain ⟨tracks, compiled⟩ :=
    tracks_run tracksStart ChangeQueue.valid_empty operations
  refine ⟨tracks.stale, ?_, compiled⟩
  rw [← filterMap_text?_marks]
  exact tracks.count

end Session

end BlackHoleScene
