import BlackHoleScene.Proofs.Session.RegularRun
import BlackHoleScene.Proofs.Session.ShownPanel
import Mathlib.LinearAlgebra.Matrix.Notation

/-!
# Steps without a frame

A step that gives no frame leaves the session as it was, apart from the queue,
which it empties. The view to which the next one is compared is that of the last
frame, so a camera that drifts by small moves is never more than the threshold
away from what the host saw last: `Session.state_of_idle_and_frobenius_le`.

None of this needs a valid panel. A panel that cannot be shown gives no frame at
all, and once there was a frame the panel is showable and stays so.
-/

namespace BlackHoleScene

namespace Transform

/-- The matrix of a transform. -/
def toMatrix (t : Transform ℝ) : Matrix (Fin 4) (Fin 4) ℝ :=
  !![t.turn.colX.x, t.turn.colY.x, t.turn.colZ.x, t.offset.x;
    t.turn.colX.y, t.turn.colY.y, t.turn.colZ.y, t.offset.y;
    t.turn.colX.z, t.turn.colY.z, t.turn.colZ.z, t.offset.z;
    t.bottom.x, t.bottom.y, t.bottom.z, t.corner]

/-- The Frobenius distance of two transforms. -/
noncomputable def frobenius (a b : Transform ℝ) : ℝ :=
  Real.sqrt
    (∑ row, ∑ column, (a.toMatrix row column - b.toMatrix row column) ^ 2)

@[simp] theorem frobenius_self (t : Transform ℝ) : t.frobenius t = 0 := by
  simp [frobenius]

/-- The length of a transform as an array is that of its matrix. -/
theorem norm_toGrid (t : Transform ℝ) :
    t.toGrid.norm =
      Real.sqrt (∑ row, ∑ column, t.toMatrix row column ^ 2) := by
  have entries : t.toGrid.entries =
      [t.turn.colX.x, t.turn.colY.x, t.turn.colZ.x, t.offset.x,
        t.turn.colX.y, t.turn.colY.y, t.turn.colZ.y, t.offset.y,
        t.turn.colX.z, t.turn.colY.z, t.turn.colZ.z, t.offset.z,
        t.bottom.x, t.bottom.y, t.bottom.z, t.corner] := rfl
  rw [Grid.norm, entries]
  apply congrArg Real.sqrt
  simp [Grid.sumSquares, Fin.sum_univ_four, toMatrix]
  ring

/-- The difference of two transforms, entry by entry. -/
noncomputable def difference (a b : Transform ℝ) : Transform ℝ where
  turn :=
    ⟨a.turn.colX - b.turn.colX, a.turn.colY - b.turn.colY,
      a.turn.colZ - b.turn.colZ⟩
  offset := a.offset - b.offset
  bottom := a.bottom - b.bottom
  corner := a.corner - b.corner

theorem toMatrix_difference (a b : Transform ℝ) (row column : Fin 4) :
    (a.difference b).toMatrix row column =
      a.toMatrix row column - b.toMatrix row column := by
  fin_cases row <;> fin_cases column <;> rfl

/-- The distance of two transforms as arrays is their Frobenius distance. -/
theorem distance_toGrid (a b : Transform ℝ) :
    Grid.distance a.toGrid b.toGrid = .ok (a.frobenius b) := by
  have fitted : Grid.fitted (fun x y => x - y) a.toGrid b.toGrid =
      (.ok (a.difference b).toGrid : Except (Fault ℝ) (Grid ℝ)) := rfl
  simp only [Grid.distance, fitted, Except.map, norm_toGrid,
    toMatrix_difference, frobenius]

end Transform

variable {α : Type} [Scalar α]

/-! ### Renewal of a program -/

namespace Program

variable {program : Program} {panel : Panel α}

/-- A renewal that does not stop leaves a text. -/
theorem isSome_text?_of_renew
    {fresh? : Option String}
    (renewed : (program.renew panel).result = .ok fresh?) :
    (program.renew panel).state.text?.isSome := by
  unfold renew at renewed ⊢
  split at renewed
  · next current =>
      rw [if_pos current]
      simp only [Bool.and_eq_true] at current
      exact current.2
  · next outdated =>
      rw [if_neg outdated]
      split at renewed
      · cases renewed
      · rfl

/-- If the text there was came from a panel with a step count, so does the text
after a renewal. -/
theorem exists_steps_of_renew
    (counted : program.text?.isSome → ∃ count, panel.steps = .ok count)
    (held : (program.renew panel).state.text?.isSome) :
    ∃ count, panel.steps = .ok count := by
  unfold renew at held
  split at held
  · exact counted held
  · split at held
    · exact counted held
    · next text compiled => exact Stencil.exists_steps_of_compile compiled

/-- Fetching the text leaves what a renewal leaves. -/
theorem fetch_state
    (program : Program)
    (panel : Panel α) :
    (program.fetch panel).state = (program.renew panel).state := by
  unfold fetch Outcome.andThen
  cases (program.renew panel).result <;> rfl

end Program

/-- The view of the frame that an operation makes, if it makes one. -/
def Event.seenView? (event : Event α) : Option (Grid α) :=
  match event.operation, event.outcome.result with
  | .step _ view?, .ok (.frame (some _)) =>
      (event.before.chooseView view?).toOption
  | _, _ => none

/-- Input makes no frame. -/
theorem Event.seenView?_of_isInput
    (session : Session α)
    {operation : Operation α}
    (input : operation.isInput = true) :
    Event.seenView? ⟨session, operation⟩ = none := by
  cases operation <;> first | rfl | cases input

namespace Session

/-- The view that the host saw last. -/
def seenView?
    (session : Session α)
    (operations : List (Operation α)) : Option (Grid α) :=
  latest? Event.seenView? session operations

/-- Only a showable panel is published. -/
theorem showable_of_publish
    {session : Session α}
    {step : Number α}
    {frame : Frame α}
    (counted :
      session.program.text?.isSome →
        ∃ count, session.panel.steps = .ok count)
    (published : (session.publish step).result = .ok frame) :
    session.panel.Showable := by
  unfold publish at published
  cases gathered : session.renderData with
  | error fault =>
      rw [gathered] at published
      cases published
  | ok data =>
      rw [gathered] at published
      obtain ⟨distance, distanceRead, rest⟩ := bind_eq_ok_iff.1 gathered
      obtain ⟨radius, radiusRead, _⟩ := bind_eq_ok_iff.1 rest
      cases renewed : (session.program.renew session.panel).result with
      | error fault =>
          simp [Outcome.andThen, Outcome.within, renewed] at published
      | ok fresh? =>
          have steps :=
            Program.exists_steps_of_renew counted
              (Program.isSome_text?_of_renew renewed)
          exact ⟨steps, ⟨distance, distanceRead⟩,
            ⟨radius, radiusRead⟩⟩

/-- The session goes on from one that began with the settings and the panel of
`first`, and remembers the view that was seen last. -/
structure Remembers
    (first : Session α)
    (seen? : Option (Grid α))
    (session : Session α) : Prop where
  settings : session.settings = first.settings
  queue : session.queue.Valid
  counted :
    session.program.text?.isSome → ∃ count, session.panel.steps = .ok count
  /-- Before the first frame this holds for a showable panel only: any other
  lets a step stop after it took its view. -/
  lastView? :
    first.panel.Showable ∨ seen?.isSome →
      session.panel.Showable ∧ session.lastView?.map Transform.toGrid = seen?

namespace Remembers

variable {first session : Session α} {seen? : Option (Grid α)}

/-- A session that differs at most in observer, queue and staleness remembers
the same. -/
theorem of_scene
    (remembers : Remembers first seen? session)
    {reached : Session α}
    (settings : reached.settings = session.settings)
    (queue : reached.queue.Valid)
    (panel : reached.panel = session.panel)
    (text? : reached.program.text? = session.program.text?)
    (lastView? : reached.lastView? = session.lastView?) :
    Remembers first seen? reached where
  settings := settings.trans remembers.settings
  queue := queue
  counted := by
    rw [panel, text?]
    exact remembers.counted
  lastView? := by
    rw [panel, lastView?]
    exact remembers.lastView?

/-- A renewed program changes nothing about what is remembered. -/
theorem renewed (remembers : Remembers first seen? session) :
    Remembers first seen?
      { session with
        program := (session.program.renew session.panel).state } where
  settings := remembers.settings
  queue := remembers.queue
  counted := Program.exists_steps_of_renew remembers.counted
  lastView? := remembers.lastView?

/-- Nor does a drain. -/
theorem drained (remembers : Remembers first seen? session) :
    Remembers first seen? session.drained where
  settings := remembers.settings
  queue := ChangeQueue.valid_empty
  counted := by
    intro held
    have fits : ∀ change ∈ session.effectiveChanges, change.Valid :=
      fun change member =>
        remembers.queue change (ChangeQueue.mem_of_mem_effective member)
    exact Panel.assignAll_induction
      (motive := fun panel => ∃ count, panel.steps = .ok count)
      (fun _ _ _ fit counted => Panel.exists_steps_assign fit counted) fits
      (remembers.counted held)
  lastView? := by
    intro usable
    obtain ⟨showable, followed⟩ := remembers.lastView? usable
    refine ⟨showable.assignAll ?_, followed⟩
    exact fun change member =>
      remembers.queue change (ChangeQueue.mem_of_mem_effective member)

/-- Publishing remembers the view of the frame, if there is one. -/
theorem publish
    (remembers : Remembers first seen? session)
    {view : Transform α}
    (step : Number α) :
    let looking := { session with lastView? := some view }
    Remembers first
      (match (looking.publish step).result with
        | .ok _ => some view.toGrid
        | .error _ => seen?)
      (looking.publish step).state := by
  intro looking
  cases published : (looking.publish step).result with
  | ok frame =>
      have showable : looking.panel.Showable :=
        showable_of_publish remembers.counted published
      have shown : Remembers first (some view.toGrid) looking :=
        ⟨remembers.settings, remembers.queue, remembers.counted,
          fun _ => ⟨showable, rfl⟩⟩
      rcases looking.publish_state step with left | left
      · rw [left]
        exact shown
      · rw [left]
        exact shown.renewed
  | error fault =>
      have unusable : ¬(first.panel.Showable ∨ seen?.isSome) := by
        intro usable
        have showable : looking.panel.Showable := (remembers.lastView? usable).1
        obtain ⟨frame, made, _⟩ := looking.publish_eq showable step
        cases made.symm.trans published
      have unshown : Remembers first seen? looking :=
        ⟨remembers.settings, remembers.queue, remembers.counted, fun usable =>
          absurd usable unusable⟩
      rcases looking.publish_state step with left | left
      · rw [left]
        exact unshown
      · rw [left]
        exact unshown.renewed

/-- So does making a frame. -/
theorem produceFrame
    (remembers : Remembers first seen? session)
    (elapsed : Value α)
    (view : Grid α) :
    Remembers first
      (match (session.produceFrame elapsed view).result with
        | .ok _ => some view
        | .error _ => seen?)
      (session.produceFrame elapsed view).state := by
  rcases session.produceFrame_cases elapsed view with
    ⟨fault, observer, stopped, left⟩ |
      ⟨transform, observer, step, read, made, left⟩
  · rw [stopped, left]
    exact remembers.of_scene rfl remembers.queue rfl rfl rfl
  · have moved : Remembers first seen? { session with observer } :=
      remembers.of_scene rfl remembers.queue rfl rfl rfl
    rw [made, left, Transform.ofGrid_eq_ok_iff.1 read]
    exact moved.publish step

/-- So does every operation. -/
theorem perform
    (remembers : Remembers first seen? session)
    (operation : Operation α) :
    Remembers first ((Event.seenView? ⟨session, operation⟩).or seen?)
      (session.perform operation).state := by
  cases operation using Operation.inputCases with
  | input operation input =>
      have scene := session.sameScene_perform input
      rw [Event.seenView?_of_isInput session input, Option.none_or]
      exact remembers.of_scene scene.settings
        (valid_queue_perform remembers.queue operation)
        scene.panel (congrArg Program.text? scene.program) scene.lastView?
  | markStale => exact remembers.of_scene rfl remembers.queue rfl rfl rfl
  | fetchProgram =>
      have fetched : session.fetchProgram.state =
          { session with
            program := (session.program.renew session.panel).state } := by
        rw [Session.fetchProgram, Outcome.within, Program.fetch_state]
      rw [perform_fetchProgram, fetched]
      exact remembers.renewed
  | step elapsed view? =>
      have drained := remembers.drained
      simp only [Event.seenView?, Event.outcome, perform_step]
      rcases step_cases remembers.queue elapsed view? with
        ⟨fault, _, stopped, left⟩ | ⟨view, _, _, idle, left⟩ |
          ⟨view, chosen, _, made, left⟩
      · rw [stopped, left]
        exact drained
      · rw [idle, left]
        exact drained
      · have shown := drained.produceFrame elapsed view
        rw [made, left]
        cases produced : (session.drained.produceFrame elapsed view).result with
        | error fault =>
            rw [produced] at shown
            exact shown
        | ok frame =>
            have same : session.chooseView view? = .ok view := chosen
            rw [produced] at shown
            simpa [Except.map, same, Except.toOption] using shown

/-- A session begins with no view to remember. -/
theorem opening
    (stencilText : String)
    (panel : Panel α)
    (settings : Settings α)
    (observer : Observer α) :
    let first := Session.opening stencilText panel settings observer
    Remembers first none first where
  settings := rfl
  queue := ChangeQueue.valid_empty
  counted := by
    intro held
    cases held
  lastView? := by
    rintro (showable | seen)
    · exact ⟨showable, rfl⟩
    · cases seen

/-- Every run remembers the view that was seen last. -/
theorem run
    (stencilText : String)
    (panel : Panel α)
    (settings : Settings α)
    (observer : Observer α)
    (operations : List (Operation α)) :
    let first := Session.opening stencilText panel settings observer
    Remembers first (first.seenView? operations) (first.run operations) := by
  intro first
  refine first.run_induction
    (motive :=
      fun before reached => Remembers first (first.seenView? before) reached)
    (Remembers.opening stencilText panel settings observer) ?_ operations
  intro before operation remembers
  rw [seenView?, latest?_concat]
  exact remembers.perform operation

end Remembers

/-- A step without a frame only empties the queue. -/
theorem step_state_of_idle
    {session : Session α}
    {elapsed : Value α}
    {view? : Option (Grid α)}
    (valid : session.queue.Valid)
    (idle : (session.step elapsed view?).result = .ok none) :
    (session.step elapsed view?).state = { session with queue := {} } := by
  rcases step_cases valid elapsed view? with
    ⟨fault, _, stopped, _⟩ | ⟨view, _, uncalled, _, left⟩ |
      ⟨view, _, _, made, _⟩
  · cases stopped.symm.trans idle
  · rw [left, drained_of_ineffective (needsFrame_eq_false uncalled).1]
  · obtain ⟨frame, _, impossible⟩ := map_eq_ok_iff.1 (made.symm.trans idle)
    cases impossible

/-- A step that does not stop remembers a view within the threshold of the one
supplied. -/
theorem exists_lastView_of_answered
    {session : Session ℝ}
    {elapsed : Value ℝ}
    {view : Transform ℝ}
    (valid : session.queue.Valid)
    (threshold : 0 ≤ session.settings.cameraEps)
    (answered : (session.step elapsed (some view.toGrid)).result.isOk) :
    ∃ last,
      (session.step elapsed (some view.toGrid)).state.lastView? = some last ∧
      view.frobenius last ≤ session.settings.cameraEps := by
  have supplied :
      session.drained.chooseView (some view.toGrid) = .ok view.toGrid := rfl
  rcases step_cases valid elapsed (some view.toGrid) with
    ⟨fault, _, stopped, _⟩ | ⟨grid, chosen, uncalled, _, left⟩ |
      ⟨grid, chosen, _, made, left⟩
  · rw [stopped] at answered
    cases answered
  · cases supplied.symm.trans chosen
    obtain ⟨_, _, _, near⟩ := needsFrame_eq_false uncalled
    unfold viewDiffers at near
    split at near
    · cases near
    · next last remembered =>
        rw [Transform.distance_toGrid] at near
        simp only [Except.map, Except.ok.injEq, decide_eq_false_iff_not,
          not_lt] at near
        exact ⟨last, left ▸ remembered, near⟩
  · cases supplied.symm.trans chosen
    rw [left]
    rcases session.drained.produceFrame_cases elapsed view.toGrid with
      ⟨fault, observer, stopped, _⟩ |
        ⟨transform, observer, step, read, _, published⟩
    · rw [made, stopped] at answered
      cases answered
    · rw [Transform.ofGrid_eq_ok_iff.2 rfl] at read
      cases read
      refine ⟨view, ?_, ?_⟩
      · rw [published]
        rcases Session.publish_state
          { session.drained with observer, lastView? := some view } step
          with kept | renewed
        · rw [kept]
        · rw [renewed]
      · rw [Transform.frobenius_self]
        exact threshold

/-- A step without a frame leaves the session as it was, but for the queue, now
empty. Over the reals, however many such steps there are, the view stays within
the threshold of the last frame's. -/
theorem state_of_idle_and_frobenius_le (stencilText : String) :
    (∀ {β : Type} [Scalar β]
      (panel : Panel β) (settings : Settings β) (observer : Observer β)
      (before : List (Operation β)) (elapsed : Value β)
      (view? : Option (Grid β)),
      let reached := (opening stencilText panel settings observer).run before
      (reached.step elapsed view?).result = .ok none →
        (reached.step elapsed view?).state = { reached with queue := {} }) ∧
    ∀ (panel : Panel ℝ) (settings : Settings ℝ) (observer : Observer ℝ)
      (before : List (Operation ℝ)) (elapsed : Value ℝ)
      (view : Transform ℝ),
      let session := opening stencilText panel settings observer
      let seen? :=
        session.seenView? (before ++ [.step elapsed (some view.toGrid)])
      0 ≤ settings.cameraEps →
      ((session.run before).step elapsed (some view.toGrid)).result.isOk →
        (panel.Showable → seen?.isSome) ∧
        ∀ grid, seen? = some grid →
          ∃ seen,
            grid = seen.toGrid ∧
              view.frobenius seen ≤ settings.cameraEps := by
  refine ⟨?skipped, ?seen⟩
  case skipped =>
    intro β _ panel settings observer before elapsed view? reached idle
    exact step_state_of_idle
      (valid_queue_run ChangeQueue.valid_empty before) idle
  case seen =>
    intro panel settings observer before elapsed view session seen? threshold
      answered
    have remembers :
        Remembers session (session.seenView? before) (session.run before) :=
      Remembers.run stencilText panel settings observer before
    have follows : Remembers session seen?
        ((session.run before).step elapsed (some view.toGrid)).state := by
      have all : Remembers session seen?
          (session.run (before ++ [.step elapsed (some view.toGrid)])) :=
        Remembers.run stencilText panel settings observer _
      rwa [run_append, run_cons, run_nil, perform_step] at all
    have same :
        (session.run before).settings.cameraEps = settings.cameraEps := by
      rw [remembers.settings]
      rfl
    obtain ⟨last, left, near⟩ :=
      exists_lastView_of_answered remembers.queue (same ▸ threshold) answered
    rw [same] at near
    constructor
    · intro showable
      have shown := (follows.lastView? (.inl showable)).2
      rw [left] at shown
      rw [← shown]
      rfl
    · intro grid isSeen
      have shown := (follows.lastView? (.inr (by simp [isSeen]))).2
      rw [left, isSeen] at shown
      exact ⟨last, (Option.some.inj shown).symm, near⟩

/-- Where nothing moves, the second step gives no frame. A camera that moves by
less than the threshold stays within it. -/
theorem state_of_idle_and_frobenius_le_of_drift :
    (let reached := (opening "" Panel.still .initial .start).run
        [.step (.real 0.5) (some straightView)]
      let stepped := reached.step (.real 0.5) (some straightView)
      stepped.result = .ok none ∧
        stepped.state = { reached with queue := {} }) ∧
    let settings : Settings ℝ :=
      { (Settings.initial : Settings ℝ) with cameraEps := 1 }
    let straight : Transform ℝ := .ofTurn Mat3.identity
    let aside : Transform ℝ := { straight with offset := ⟨0.5, 0, 0⟩ }
    let before : List (Operation ℝ) :=
      [.step (.real 1) (some straight.toGrid)]
    let session := opening "" Panel.still settings Observer.start
    let seen? :=
      session.seenView? (before ++ [.step (.real 1) (some aside.toGrid)])
    0 ≤ settings.cameraEps ∧
      ((session.run before).step (.real 1) (some aside.toGrid)).result.isOk ∧
      (Panel.still : Panel ℝ).Showable ∧ seen?.isSome ∧
      ∀ grid, seen? = some grid →
        ∃ seen,
          grid = seen.toGrid ∧
            aside.frobenius seen ≤ settings.cameraEps := by
  constructor
  · have idle : (((opening "" Panel.still .initial .start).run
        [.step (.real 0.5) (some straightView)]).step (.real 0.5) (some
          straightView)).result =
          .ok none :=
      eq_ok_none_of_isIdle (by decide +kernel)
    exact ⟨idle,
      (state_of_idle_and_frobenius_le "").1 Panel.still .initial .start
        _ _ _ idle⟩
  · intro settings straight aside before session seen?
    have resting : (Panel.resting : Panel ℝ).Valid :=
      Panel.valid_initial_real.assign rfl
    have valid : (Panel.still : Panel ℝ).Valid := resting.assign rfl
    have threshold : 0 ≤ settings.cameraEps := zero_le_one
    have regular (view : Transform ℝ) (orthonormal : view.turn.Orthonormal) :
        (Operation.step (.real 1) (some view.toGrid)).IsRegular := by
      refine ⟨⟨.real 1, rfl, zero_le_one⟩, ?_⟩
      intro grid supplied
      exact ⟨view, (Option.some.inj supplied).symm, orthonormal⟩
    have reached : (session.run before).Regular := by
      apply (Regular.opening "" valid settings).run before
      intro operation member
      rw [List.mem_singleton.1 member]
      exact regular straight Mat3.orthonormal_identity
    have answered :
        ((session.run before).step (.real 1)
          (some aside.toGrid)).result.isOk := by
      obtain ⟨update?, goesOn, _⟩ :=
        reached.of_stepEnds (regular aside Mat3.orthonormal_identity)
          (reached.valid.step_ends _ _)
      rw [goesOn]
      rfl
    obtain ⟨exists_seen, near⟩ :=
      (state_of_idle_and_frobenius_le "").2 Panel.still settings Observer.start
        before _ aside
        threshold answered
    exact ⟨threshold, answered, valid.showable, exists_seen valid.showable,
      near⟩

end Session

end BlackHoleScene
