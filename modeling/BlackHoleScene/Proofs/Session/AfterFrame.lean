import BlackHoleScene.Proofs.Observer.Horizon
import BlackHoleScene.Proofs.Session.RegularRun

/-!
# The step after a frame

Whether a step is stopped by the horizon is checked before the camera turns, and
off its orbit an observer is put where the camera turns to. So a frame can leave
the observer at the horizon or inside it, if the view makes the third axis of
the camera short, and from then on every step that calls for a frame stops until
the observer is put on an orbit. Nothing else stops the step after a frame:
`Session.next_step_eq_error_iff_of_framed`.
-/

namespace BlackHoleScene

/-- A step takes some time that is not negative, and its view is a transform if
it has one. -/
def Operation.IsSound : Operation ℝ → Prop
  | .step elapsed view? =>
      (∃ seconds : Number ℝ,
        elapsed = .number seconds ∧ 0 ≤ seconds.value) ∧
        ∀ view,
          view? = some view →
            ∃ transform : Transform ℝ, view = transform.toGrid
  | _ => True

namespace Session

/-- With a view if there is one, a frame is called for. -/
def CallsForFrame
    {α : Type}
    [Scalar α]
    (session : Session α)
    (view? : Option (Grid α)) : Prop :=
  ∃ view, session.drained.chooseView view? = .ok view ∧
    session.drained.needsFrame session.report view = .ok true

/-! ### When a step stops -/

section Step

variable {session reached : Session ℝ} {seconds : Number ℝ}
  {elapsed : Value ℝ}
  {view? : Option (Grid ℝ)} {view : Transform ℝ}

/-- A session that has a transform to look along is stopped only at the horizon:
when it calls for a frame, its observer is off its orbit and not outside. -/
theorem StepEnds.eq_error_iff
    {result : Except (Fault ℝ) (Option (Frame ℝ))}
    {fault : Fault ℝ}
    (ends : session.StepEnds (.number seconds) view? result reached)
    (valid : session.Valid)
    (forward : 0 ≤ seconds.value)
    (seen : session.drained.chooseView view? = .ok view.toGrid) :
    result = .error fault ↔
      session.CallsForFrame view? ∧
        session.drained.panel.isOn .observerMotion = false ∧
        session.observer.position.norm ≤ 1 ∧
        fault =
          .domain (.insideHorizon (.real session.observer.position.norm)) := by
  have panel := valid.drained.panel
  have read : Transform.ofGrid view.toGrid = .ok view :=
    Transform.ofGrid_eq_ok_iff.2 rfl
  cases ends with
  | unseen cause => exact absurd cause (not_unseen seen)
  | idle chosen uncalled =>
      constructor
      · intro stopped
        cases stopped
      · rintro ⟨⟨other, chosenToo, called⟩, _⟩
        cases chosen.symm.trans chosenToo
        cases called.symm.trans uncalled
  | held chosen called stopped =>
      obtain ⟨resting, inside, rfl⟩ :=
        (Observer.advance_eq_error_iff panel forward).1 stopped
      constructor
      · intro same
        cases same
        exact ⟨⟨_, chosen, called⟩, resting, inside, rfl⟩
      · rintro ⟨_, _, _, rfl⟩
        rfl
  | blind chosen called moved unread =>
      cases seen.symm.trans chosen
      cases read.symm.trans unread
  | framed chosen called moved reads frames =>
      constructor
      · intro stopped
        cases stopped
      · rintro ⟨_, resting, inside, _⟩
        have stopped :=
          (Observer.advance_eq_error_iff panel forward).2
            ⟨resting, inside, rfl⟩
        cases moved.symm.trans stopped

/-- Outside the horizon, a step that calls for a frame gives one. -/
theorem StepEnds.exists_frame
    {result : Except (Fault ℝ) (Option (Frame ℝ))}
    (ends : session.StepEnds (.number seconds) view? result reached)
    (valid : session.Valid)
    (forward : 0 ≤ seconds.value)
    (seen : session.drained.chooseView view? = .ok view.toGrid)
    (calls : session.CallsForFrame view?)
    (outside : 1 < session.observer.position.norm) :
    ∃ frame, result = .ok (some frame) := by
  cases result with
  | error fault =>
      have inside := ((ends.eq_error_iff valid forward seen).1 rfl).2.2.1
      exact absurd inside outside.not_ge
  | ok update? =>
      cases update? with
      | some frame => exact ⟨frame, rfl⟩
      | none =>
          cases ends with
          | idle chosen uncalled =>
              obtain ⟨other, chosenToo, called⟩ := calls
              cases chosen.symm.trans chosenToo
              cases called.symm.trans uncalled

/-- A frame leaves the observer at the distance of the panel, on its orbit, and
off it at that distance times the length of the third axis of the camera that
its view gives. -/
theorem StepEnds.norm_position_of_framed
    {frame : Frame ℝ}
    (ends : session.StepEnds elapsed view? (.ok (some frame)) reached)
    (valid : session.Valid) :
    ∃ view distance,
      reached.lastView? = some view ∧
        (∀ supplied, view? = some supplied → supplied = view.toGrid) ∧
        reached.panel.scalar .observerDistance = .ok distance ∧
        3 / 2 < distance ∧
        reached.observer.position.norm =
          if reached.panel.isOn .observerMotion then distance
          else distance * (Camera.basisOfView view).colZ.norm := by
  have panel := valid.drained.panel
  obtain ⟨distance, read, beyond⟩ := panel.distance_eq
  cases ends with
  | @framed chosenView view _ chosen called moved reads frames =>
      refine ⟨view, distance, rfl, ?supplied, read, beyond, ?placed⟩
      case supplied =>
        rintro supplied rfl
        have written : chosenView = view.toGrid :=
          Transform.ofGrid_eq_ok_iff.1 reads
        simp only [chooseView] at chosen
        split at chosen
        · cases chosen
          exact written
        · cases chosen
      case placed =>
        change (Observer.turnTo _ view
          session.drained.panel).state.position.norm =
          if session.drained.panel.isOn .observerMotion then distance else _
        rw [Observer.norm_position_turnTo panel read view]
        split
        · next moving =>
            exact Observer.norm_position_of_moved panel moving read moved
        · rfl

/-- A step leaves the panel as the queue had it, and the queue empty. -/
theorem StepEnds.panel_and_queue
    {result : Except (Fault ℝ) (Option (Frame ℝ))}
    (ends : session.StepEnds elapsed view? result reached) :
    reached.panel = session.drained.panel ∧ reached.queue = {} := by
  cases ends with
  | unseen => exact ⟨rfl, rfl⟩
  | idle => exact ⟨rfl, rfl⟩
  | held => exact ⟨rfl, rfl⟩
  | blind => exact ⟨rfl, rfl⟩
  | framed => exact ⟨rfl, rfl⟩

/-- Draining an empty queue leaves the panel as it is. -/
theorem drained_panel_of_empty (emptied : session.queue = {}) :
    session.drained.panel = session.panel := by
  simp [drained, effectiveChanges, emptied, ChangeQueue.effective]

end Step

/-- After a frame, whatever input follows, the next step stops exactly when the
frame left the observer off its orbit, at the horizon or inside it, it is still
off it, and a frame is called for. -/
theorem next_step_eq_error_iff_of_framed
    (stencilText : String)
    {panel : Panel ℝ}
    (valid : panel.Valid)
    (settings : Settings ℝ)
    (observer : Observer ℝ)
    (before : List (Operation ℝ))
    {elapsed : Value ℝ}
    {view? : Option (Grid ℝ)}
    {frame : Frame ℝ}
    (framed :
      (((opening stencilText panel settings observer).run before).step elapsed
        view?).result =
        .ok (some frame)) :
    let session := (opening stencilText panel settings observer).run before
    let reached := (session.step elapsed view?).state
    ∃ view distance,
      reached.lastView? = some view ∧
        (∀ supplied, view? = some supplied → supplied = view.toGrid) ∧
        reached.panel.scalar .observerDistance = .ok distance ∧
        ∀ input : List (Operation ℝ),
          (∀ operation ∈ input, operation.isInput = true) →
          ∀ next next?, (Operation.step next next?).IsSound →
            let waiting := reached.run input
            let radius := distance * (Camera.basisOfView view).colZ.norm
            ∀ fault,
              (waiting.step next next?).result = .error fault ↔
                (reached.panel.isOn .observerMotion = false ∧
                  radius ≤ 1) ∧
                  waiting.drained.panel.isOn .observerMotion = false ∧
                  waiting.CallsForFrame next? ∧
                  fault = .domain (.insideHorizon (.real radius)) := by
  intro session reached
  have running : session.Valid :=
    (valid_opening stencilText valid settings observer).run before
  have ends := running.step_ends elapsed view?
  have reaches : reached.Valid := ends.valid running
  rw [framed] at ends
  obtain ⟨view, distance, last, supplied, read, beyond, placed⟩ :=
    ends.norm_position_of_framed running
  refine ⟨view, distance, last, supplied, read, ?_⟩
  intro input steers next next? sound waiting radius fault
  have scene := reached.sameScene_run steers
  have waits : waiting.Valid := reaches.run input
  obtain ⟨chosen, seen, _⟩ : ∃ view : Transform ℝ,
      waiting.drained.chooseView next? = .ok view.toGrid ∧ True := by
    refine waiting.drained.exists_chooseView_eq ?_ (fun _ _ => trivial)
      fun _ _ => trivial
    intro grid supplied
    obtain ⟨view, written⟩ := sound.2 grid supplied
    exact ⟨view, written, trivial⟩
  obtain ⟨seconds, rfl, forward⟩ := sound.1
  rw [(waits.step_ends (.number seconds) next?).eq_error_iff waits forward seen,
    scene.observer, placed]
  change _ ∧ _ ∧
    (if reached.panel.isOn .observerMotion then distance else radius) ≤ 1 ∧
    fault = .domain (.insideHorizon (.real
      (if reached.panel.isOn .observerMotion then distance else radius))) ↔ _
  cases moving : reached.panel.isOn .observerMotion with
  | true =>
      constructor
      · rintro ⟨_, _, inside, _⟩
        exact absurd inside (by simp; linarith)
      · rintro ⟨⟨orbits, _⟩, _⟩
        cases orbits
  | false =>
      simp only [Bool.false_eq_true, if_false, true_and]
      tauto

/-! ### A view with short axes -/

/-- A view along the axes of the world that makes them a sixteenth as long. -/
noncomputable def shortView : Transform ℝ :=
  .ofTurn ⟨⟨1 / 16, 0, 0⟩, ⟨0, 1 / 16, 0⟩, ⟨0, 0, 1 / 16⟩⟩

theorem norm_colZ_shortView :
    (Camera.basisOfView shortView).colZ.norm = 1 / 16 :=
  Vec3.norm_eq_of_dot_self (by norm_num)
    (by
      norm_num [Camera.basisOfView, shortView, Transform.ofTurn, Mat3.ofRows,
        Vec3.dot])

/-- A session at its beginning, with the observer off its orbit. -/
noncomputable def restingOpening : Session ℝ :=
  opening "" Panel.resting .initial .start

theorem valid_panel_resting : (Panel.resting : Panel ℝ).Valid :=
  Panel.valid_initial_real.assign rfl

theorem valid_restingOpening : restingOpening.Valid :=
  valid_opening "" valid_panel_resting .initial .start

/-- Off its orbit, the observer begins outside the horizon, and the first view
gives a frame. -/
theorem exists_frame_of_restingOpening (view : Transform ℝ) :
    ∃ frame,
      (restingOpening.step (.real (1 / 2)) (some view.toGrid)).result =
        .ok (some frame) := by
  have calls : restingOpening.CallsForFrame (some view.toGrid) := by
    refine ⟨view.toGrid, rfl, ?_⟩
    simp [needsFrame, drained, restingOpening, opening, start, Program.ofString]
  have length : (⟨10, 0, 0⟩ : Vec3 ℝ).norm = 10 :=
    Vec3.norm_eq_of_dot_self (by norm_num) (by norm_num)
  have outside : 1 < restingOpening.observer.position.norm := by
    change 1 < (Observer.start : Observer ℝ).position.norm
    rw [Observer.start_eq.1, length]
    norm_num
  have valid := valid_restingOpening
  exact (valid.step_ends _ _).exists_frame valid (by norm_num) rfl calls outside

/-- After a frame with the short view, the observer is inside the horizon, and
panel and queue are as they were. -/
theorem scene_of_shortView :
    let first := restingOpening.step (.real (1 / 2)) (some shortView.toGrid)
    first.state.panel = Panel.resting ∧ first.state.queue = {} ∧
      first.state.observer.position.norm = 11 / 16 := by
  intro first
  have valid := valid_restingOpening
  have ends := valid.step_ends (.real (1 / 2)) (some shortView.toGrid)
  obtain ⟨held, emptied⟩ :
      first.state.panel = Panel.resting ∧ first.state.queue = {} :=
    ends.panel_and_queue
  refine ⟨held, emptied, ?_⟩
  obtain ⟨frame, framed⟩ := exists_frame_of_restingOpening shortView
  rw [framed] at ends
  obtain ⟨view, distance, _, supplied, read, _, placed⟩ :=
    ends.norm_position_of_framed valid
  have looked : Transform.ofGrid shortView.toGrid = .ok view :=
    Transform.ofGrid_eq_ok_iff.2 (supplied _ rfl)
  have itself : Transform.ofGrid shortView.toGrid = .ok shortView :=
    Transform.ofGrid_eq_ok_iff.2 rfl
  cases itself.symm.trans looked
  have eleven : distance = 11 := by
    change first.state.panel.scalar .observerDistance = .ok distance at read
    rw [held] at read
    cases read
    norm_num
  have resting : (Panel.resting : Panel ℝ).isOn .observerMotion = false := rfl
  change first.state.observer.position.norm =
    if first.state.panel.isOn .observerMotion then _ else _ at placed
  rw [placed, held, if_neg (by simp [resting]), eleven, norm_colZ_shortView]
  norm_num

/-- A first step with the short view gives a frame and leaves nothing queued,
and the step after it stops, with a view along the axes of the world. -/
theorem next_step_stops_of_shortView :
    let first := restingOpening.step (.real (1 / 2)) (some shortView.toGrid)
    let second :=
      first.state.step (.real (1 / 2))
        (some (Transform.ofTurn Mat3.identity).toGrid)
    (Panel.resting : Panel ℝ).Valid ∧
      (∃ frame, first.result = .ok (some frame)) ∧
      first.state.queue = {} ∧
      second.result = .error (.domain (.insideHorizon (.real (11 / 16)))) := by
  intro first second
  obtain ⟨held, emptied, radius⟩ :
      first.state.panel = Panel.resting ∧ first.state.queue = {} ∧
        first.state.observer.position.norm = 11 / 16 := scene_of_shortView
  have valid : first.state.Valid :=
    (valid_restingOpening.step_ends _ _).valid valid_restingOpening
  have unchanged : first.state.drained.panel = Panel.resting := by
    rw [drained_panel_of_empty emptied, held]
  have calls :
      first.state.CallsForFrame
        (some (Transform.ofTurn Mat3.identity).toGrid) := by
    refine ⟨_, rfl, ?_⟩
    have animated : (Panel.resting : Panel ℝ).isAnimated = true := rfl
    simp [needsFrame, unchanged, animated]
  have resting : first.state.drained.panel.isOn .observerMotion = false := by
    rw [unchanged]
    rfl
  have inside : first.state.observer.position.norm ≤ 1 := by
    rw [radius]
    norm_num
  have forward : 0 ≤ (Number.real (1 / 2 : ℝ)).value := by norm_num
  have ends :=
    valid.step_ends (.real (1 / 2))
      (some (Transform.ofTurn Mat3.identity).toGrid)
  have stopped :=
    (ends.eq_error_iff valid forward rfl).2 ⟨calls, resting, inside, rfl⟩
  rw [radius] at stopped
  exact ⟨valid_panel_resting, exists_frame_of_restingOpening shortView,
    emptied, stopped⟩

/-- After that frame, a distance is queued and a step along the axes of the
world follows. -/
theorem next_step_eq_error_iff_of_framed_shortView :
    let session :=
      (opening "" (Panel.resting : Panel ℝ) .initial .start).run []
    let framing := session.step (.real (1 / 2)) (some shortView.toGrid)
    let input : List (Operation ℝ) :=
      [.enqueue "observer.distance" (.real 20)]
    let waiting := framing.state.run input
    let straight := (Transform.ofTurn Mat3.identity : Transform ℝ).toGrid
    (Panel.resting : Panel ℝ).Valid ∧
      (∃ frame, framing.result = .ok (some frame)) ∧
      (∀ operation ∈ input, operation.isInput = true) ∧
      (Operation.step (.real (1 / 2)) (some straight)).IsSound ∧
      ∃ view distance,
        framing.state.lastView? = some view ∧
          (∀ supplied,
            some shortView.toGrid = some supplied →
              supplied = view.toGrid) ∧
          framing.state.panel.scalar .observerDistance = .ok distance ∧
          ∀ fault,
            (waiting.step (.real (1 / 2)) (some straight)).result =
              .error fault ↔
              (framing.state.panel.isOn .observerMotion = false ∧
                distance * (Camera.basisOfView view).colZ.norm ≤ 1) ∧
                waiting.drained.panel.isOn .observerMotion = false ∧
                waiting.CallsForFrame (some straight) ∧
                fault = .domain (.insideHorizon (.real
                  (distance * (Camera.basisOfView view).colZ.norm))) := by
  intro session framing input waiting straight
  obtain ⟨frame, framed⟩ := exists_frame_of_restingOpening shortView
  have steers : ∀ operation ∈ input, operation.isInput = true := by
    simp [input, Operation.isInput]
  have sound : (Operation.step (.real (1 / 2)) (some straight)).IsSound := by
    refine ⟨⟨.real (1 / 2), rfl, by norm_num⟩, ?_⟩
    intro view supplied
    exact ⟨.ofTurn Mat3.identity, (Option.some.inj supplied).symm⟩
  obtain ⟨view, distance, last, supplied, read, stops⟩ :=
    next_step_eq_error_iff_of_framed
      "" valid_panel_resting .initial .start [] framed
  exact ⟨valid_panel_resting, ⟨frame, framed⟩, steers, sound, view,
    distance, last, supplied, read, stops input steers _ _ sound⟩

end Session

end BlackHoleScene
