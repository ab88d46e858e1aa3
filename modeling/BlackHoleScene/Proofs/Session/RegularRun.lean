import BlackHoleScene.Proofs.Observer.Regular
import BlackHoleScene.Proofs.Session.History

/-!
# Runs over the real numbers

A host that steps a session for times that are not negative, with orthonormal
views, is never stopped: the observer that begins regular stays so, however its
controls are set in between. After every frame it is where the panel puts it:
`Session.observer_of_regular_run`.
-/

namespace BlackHoleScene

namespace Transform

/-- The view at the start of a session is orthonormal. -/
theorem exists_startView_eq :
    ∃ view : Transform ℝ,
      startView = .ok view ∧ view.turn.Orthonormal := by
  refine ⟨ofTurn ((Mat3.tiltX (-3.0)).mul (Mat3.tiltY (-0.0))), ?started,
    ?orthonormal⟩
  case started =>
    simp only [startView, pitchedView, Mat3.rotationX_eq, Mat3.rotationY_eq]
    rfl
  case orthonormal =>
    exact (Mat3.orthonormal_tiltX _).mul (Mat3.orthonormal_tiltY _)

/-- Two transforms have a distance. -/
theorem exists_distance_eq (a b : Transform ℝ) :
    ∃ distance : ℝ, Grid.distance a.toGrid b.toGrid = .ok distance :=
  ⟨_, rfl⟩

end Transform

/-- A step takes some time that is not negative, and its view is orthonormal if
it has one. -/
def Operation.IsRegular : Operation ℝ → Prop
  | .step elapsed view? =>
      (∃ seconds : Number ℝ,
        elapsed = .number seconds ∧ 0 ≤ seconds.value) ∧
        ∀ view, view? = some view →
          ∃ transform : Transform ℝ,
            view = transform.toGrid ∧ transform.turn.Orthonormal
  | _ => True

namespace Session

/-- Whether a frame is called for can be told for every transform. -/
theorem exists_needsFrame_eq
    (session : Session ℝ)
    (report : ChangeReport)
    (view : Transform ℝ) :
    ∃ called, session.needsFrame report view.toGrid = .ok called := by
  unfold needsFrame
  split
  · exact ⟨true, rfl⟩
  · unfold viewDiffers
    split
    · exact ⟨true, rfl⟩
    · next last _ =>
        obtain ⟨distance, found⟩ := view.exists_distance_eq last
        rw [found]
        exact ⟨_, rfl⟩

/-- The view of a step is good if the one supplied, that of the last frame, and
all orthonormal ones are. -/
theorem exists_chooseView_eq
    (session : Session ℝ)
    {view? : Option (Grid ℝ)}
    {good : Transform ℝ → Prop}
    (supplied :
      ∀ grid,
        view? = some grid → ∃ view : Transform ℝ, grid = view.toGrid ∧
          good view)
    (last : ∀ view, session.lastView? = some view → good view)
    (orthonormal :
      ∀ view : Transform ℝ, view.turn.Orthonormal → good view) :
    ∃ view : Transform ℝ,
      session.chooseView view? = .ok view.toGrid ∧ good view := by
  cases view? with
  | some grid =>
      obtain ⟨view, rfl, isGood⟩ := supplied grid rfl
      exact ⟨view, rfl, isGood⟩
  | none =>
      cases shown : session.lastView? with
      | some view =>
          exact ⟨view, by simp [chooseView, shown], last view shown⟩
      | none =>
          obtain ⟨view, started, turned⟩ := Transform.exists_startView_eq
          exact ⟨view, by simp [chooseView, shown, started, Except.map],
            orthonormal view turned⟩

/-- A session that has a transform to look along can tell whether a frame is
called for. -/
theorem not_unseen
    {session : Session ℝ}
    {view? : Option (Grid ℝ)}
    {view : Transform ℝ}
    {fault : Fault ℝ}
    (seen : session.drained.chooseView view? = .ok view.toGrid) :
    ¬(session.drained.chooseView view? = .error fault ∨
      ∃ other, session.drained.chooseView view? = .ok other ∧
        session.drained.needsFrame session.report other = .error fault) := by
  rintro (unchosen | ⟨other, chosen, uncompared⟩)
  · cases seen.symm.trans unchosen
  · cases seen.symm.trans chosen
    obtain ⟨called, compared⟩ :=
      exists_needsFrame_eq session.drained session.report view
    cases compared.symm.trans uncompared

/-- The session is valid, its observer regular, and the view of its last frame
orthonormal. -/
structure Regular (session : Session ℝ) : Prop where
  valid : session.Valid
  observer : session.observer.Regular
  lastView : ∀ view, session.lastView? = some view → view.turn.Orthonormal

namespace Regular

variable {session : Session ℝ}

/-- Draining keeps a session regular. -/
theorem drained (regular : session.Regular) : session.drained.Regular :=
  ⟨regular.valid.drained, regular.observer, regular.lastView⟩

/-- A session that differs from a regular one at most in queue and program is
regular. -/
theorem of_scene
    (regular : session.Regular)
    {reached : Session ℝ}
    (valid : reached.Valid)
    (observer : reached.observer = session.observer)
    (lastView? : reached.lastView? = session.lastView?) :
    reached.Regular :=
  ⟨valid, observer ▸ regular.observer, lastView? ▸ regular.lastView⟩

/-- A regular step of a regular session does not stop, keeps it regular, and
after a frame the observer is where the panel puts it. -/
theorem of_stepEnds
    (regular : session.Regular)
    {elapsed : Value ℝ}
    {view? : Option (Grid ℝ)}
    {result : Except (Fault ℝ) (Option (Frame ℝ))}
    {reached : Session ℝ}
    (steps : (Operation.step elapsed view?).IsRegular)
    (ends : session.StepEnds elapsed view? result reached) :
    ∃ update?, result = .ok update? ∧ reached.Regular ∧
      (update?.isSome → reached.observer.PlacedBy reached.panel) := by
  have valid := ends.valid regular.valid
  obtain ⟨seconds, rfl, forward⟩ := steps.1
  obtain ⟨view, seen, orthonormal⟩ :=
    session.drained.exists_chooseView_eq steps.2 regular.lastView fun _ => id
  obtain ⟨step, moves, regularly, placed⟩ :=
    regular.observer.advance regular.valid.drained.panel forward
  have read : Transform.ofGrid view.toGrid = .ok view :=
    Transform.ofGrid_eq_ok_iff.2 rfl
  cases ends with
  | unseen cause => exact absurd cause (not_unseen seen)
  | idle chosen uncalled =>
      refine ⟨none, rfl, regular.drained, ?_⟩
      intro shown
      cases shown
  | held chosen called stopped => cases moves.symm.trans stopped
  | blind chosen called moved unread =>
      cases seen.symm.trans chosen
      cases read.symm.trans unread
  | @framed _ transform frame chosen called moved reads frames =>
      cases seen.symm.trans chosen
      cases read.symm.trans reads
      obtain ⟨turned, settled⟩ :=
        regularly.turnTo regular.valid.drained.panel orthonormal placed
      refine ⟨some frame, rfl, ⟨valid, turned, ?_⟩, fun _ => settled⟩
      intro last shown
      cases shown
      exact orthonormal

/-- A regular operation keeps a session regular. -/
theorem perform
    (regular : session.Regular)
    {operation : Operation ℝ}
    (steps : operation.IsRegular) :
    (session.perform operation).state.Regular := by
  have valid := regular.valid.perform operation
  cases operation using Operation.inputCases with
  | input operation input =>
      have scene := session.sameScene_perform input
      exact regular.of_scene valid scene.observer scene.lastView?
  | markStale => exact regular.of_scene valid rfl rfl
  | fetchProgram =>
      rw [perform_fetchProgram] at valid ⊢
      exact regular.of_scene valid rfl rfl
  | step elapsed view? =>
      obtain ⟨_, _, reached, _⟩ :=
        regular.of_stepEnds steps (regular.valid.step_ends elapsed view?)
      rw [perform_step]
      exact reached

/-- A session begins regular. -/
theorem opening
    (stencilText : String)
    {panel : Panel ℝ}
    (valid : panel.Valid)
    (settings : Settings ℝ) :
    (Session.opening stencilText panel settings Observer.start).Regular where
  valid := valid_opening stencilText valid settings Observer.start
  observer := Observer.regular_start
  lastView := by
    intro view shown
    cases shown

/-- Regular operations keep a session regular. -/
theorem run
    (regular : session.Regular)
    (operations : List (Operation ℝ))
    (steps : ∀ operation ∈ operations, operation.IsRegular) :
    (session.run operations).Regular := by
  refine session.run_induction
    (motive := fun before reached =>
      (∀ operation ∈ before, operation.IsRegular) → reached.Regular)
    (fun _ => regular) ?_ operations steps
  intro before operation reached steps
  apply (reached ?_).perform
  · apply steps operation
    exact List.mem_append_right before List.mem_cons_self
  · intro earlier member
    apply steps earlier
    exact List.mem_append_left [operation] member

end Regular

/-- Between regular operations, the observer is regular, and no regular step
stops. After a step with a frame, the observer is where the panel puts it. -/
theorem observer_of_regular_run
    (stencilText : String)
    {panel : Panel ℝ}
    (valid : panel.Valid)
    (settings : Settings ℝ)
    {before : List (Operation ℝ)}
    (steps : ∀ operation ∈ before, operation.IsRegular) :
    let reached :=
      (opening stencilText panel settings Observer.start).run before
    reached.observer.Regular ∧
      ∀ elapsed view?, (Operation.step elapsed view?).IsRegular →
        ∃ update?, (reached.step elapsed view?).result = .ok update? ∧
          (update?.isSome →
            (reached.step elapsed view?).state.observer.PlacedBy
              (reached.step elapsed view?).state.panel) := by
  intro reached
  have regular : reached.Regular :=
    (Regular.opening stencilText valid settings).run before steps
  refine ⟨regular.observer, ?_⟩
  intro elapsed view? next
  obtain ⟨update?, answered, _, placed⟩ :=
    regular.of_stepEnds next (regular.valid.step_ends elapsed view?)
  exact ⟨update?, answered, placed⟩

/-- The observer leaves its orbit and comes back to one of another radius. -/
theorem observer_of_regular_run_of_motion_switched :
    let straight : Grid ℝ := (Transform.ofTurn Mat3.identity).toGrid
    let before : List (Operation ℝ) :=
      [.step (.real 1) none, .enqueue "observer.motion" (.truth false),
        .step (.real 1) (some straight),
        .enqueue "observer.motion" (.truth true),
        .enqueue "observer.distance" (.real 20)]
    let reached := (opening "" Panel.initial .initial .start).run before
    (Panel.initial : Panel ℝ).Valid ∧
      (∀ operation ∈ before, operation.IsRegular) ∧
      reached.observer.Regular ∧
      ∀ elapsed view?, (Operation.step elapsed view?).IsRegular →
        ∃ update?, (reached.step elapsed view?).result = .ok update? ∧
          (update?.isSome →
            (reached.step elapsed view?).state.observer.PlacedBy
              (reached.step elapsed view?).state.panel) := by
  intro straight before reached
  have later : (Operation.step (.real 1) none : Operation ℝ).IsRegular := by
    refine ⟨⟨.real 1, rfl, zero_le_one⟩, ?_⟩
    intro view supplied
    cases supplied
  have turned : (Operation.step (.real 1) (some straight)).IsRegular := by
    refine ⟨⟨.real 1, rfl, zero_le_one⟩, ?_⟩
    intro view supplied
    exact ⟨.ofTurn Mat3.identity, (Option.some.inj supplied).symm,
      Mat3.orthonormal_identity⟩
  have steps : ∀ operation ∈ before, operation.IsRegular := by
    simp only [before, List.forall_mem_cons]
    refine ⟨later, trivial, turned, trivial, trivial, ?_⟩
    intro operation absent
    cases absent
  exact ⟨Panel.valid_initial_real, steps,
    observer_of_regular_run "" Panel.valid_initial_real .initial steps⟩

end Session

end BlackHoleScene
