import BlackHoleScene.Proofs.Session.History

/-!
# The panel that the host was shown last

A step that stops has drained the queue by then, and the next step finds nothing
queued. If nothing else calls for a frame, that step gives none, although the
panel is no longer the one of the last frame. So the panel after a step without
a frame is the one shown last with exactly those changes on top that took effect
in steps that stopped since, and it agrees with the one shown if and only if
these changes come back to its values: `Session.panel_agrees_iff_of_idle`.
-/

namespace BlackHoleScene

variable {α : Type} [Scalar α]

/-- The panel that an operation shows to the host, if it makes a frame. -/
def Event.shownPanel? (event : Event α) : Option (Panel α) :=
  match event.outcome.result with
  | .ok (.frame (some _)) => some event.outcome.state.panel
  | _ => none

/-- The changes that take effect in a step that then stops. -/
def Event.lostChanges (event : Event α) : List (Change α) :=
  match event.operation, event.outcome.result with
  | .step _ _, .error _ => event.before.effectiveChanges
  | _, _ => []

/-- Input shows no panel. -/
theorem Event.shownPanel?_of_isInput
    (session : Session α)
    {operation : Operation α}
    (input : operation.isInput = true) :
    Event.shownPanel? ⟨session, operation⟩ = none := by
  unfold Event.shownPanel? Event.outcome
  split
  · next update replied =>
      have acknowledged := Session.isAcknowledgement_of_perform input replied
      cases acknowledged
  · rfl

/-- Input loses no changes. -/
theorem Event.lostChanges_of_isInput
    (session : Session α)
    {operation : Operation α}
    (input : operation.isInput = true) :
    Event.lostChanges ⟨session, operation⟩ = [] := by
  cases operation <;> first | rfl | cases input

/-- The changes unshown after an operation, given those before it: a frame
leaves none, and any other operation adds those it loses. -/
def Event.unshownAfter
    (event : Event α)
    (unshown : List (Change α)) : List (Change α) :=
  if event.shownPanel?.isSome then [] else unshown ++ event.lostChanges

/-- After a frame no change is unshown. -/
theorem Event.unshownAfter_of_shown
    {event : Event α}
    {shown : Panel α}
    (made : event.shownPanel? = some shown)
    (unshown : List (Change α)) :
    event.unshownAfter unshown = [] := by
  simp [unshownAfter, made]

/-- Without a frame the changes stay unshown. -/
theorem Event.unshownAfter_of_not_shown
    {event : Event α}
    (unmade : event.shownPanel? = none)
    (unshown : List (Change α)) :
    event.unshownAfter unshown = unshown ++ event.lostChanges := by
  simp [unshownAfter, unmade]

namespace Session

/-- The panel that the host was shown last. -/
def shownPanel?
    (session : Session α)
    (operations : List (Operation α)) : Option (Panel α) :=
  latest? Event.shownPanel? session operations

/-- The changes that took effect in steps that stopped since the last frame, in
order. -/
def unshownChanges
    (session : Session α)
    (operations : List (Operation α)) : List (Change α) :=
  let sinceFrame := (session.events operations).reverse.takeWhile fun event =>
    event.shownPanel?.isNone
  sinceFrame.reverse.flatMap Event.lostChanges

/-- The unshown changes of a run are found operation by operation. -/
theorem unshownChanges_concat
    (session : Session α)
    (before : List (Operation α))
    (operation : Operation α) :
    session.unshownChanges (before ++ [operation]) =
      Event.unshownAfter ⟨session.run before, operation⟩
        (session.unshownChanges before) := by
  simp only [unshownChanges, events_concat, List.reverse_append,
    List.reverse_singleton, List.singleton_append, List.takeWhile_cons]
  cases made : Event.shownPanel? ⟨session.run before, operation⟩ with
  | some shown => rw [Event.unshownAfter_of_shown made]; rfl
  | none => rw [Event.unshownAfter_of_not_shown made]; simp

/-- The panel is the one shown last with the changes on top that were not shown,
and a view is remembered only if a panel was shown. -/
structure Follows
    (shown? : Option (Panel α))
    (unshown : List (Change α))
    (session : Session α) : Prop where
  valid : session.Valid
  panel :
    ∀ shown, shown? = some shown → session.panel = shown.assignAll unshown
  shown : session.lastView?.isSome → shown?.isSome

namespace Follows

variable {shown? : Option (Panel α)} {unshown : List (Change α)}
  {session : Session α}

/-- What leaves panel and view as they are loses nothing. -/
theorem of_unchanged
    (follows : Follows shown? unshown session)
    {reached : Session α}
    (valid : reached.Valid)
    (panel : reached.panel = session.panel)
    (lastView? : reached.lastView? = session.lastView?) :
    Follows shown? unshown reached where
  valid := valid
  panel := panel ▸ follows.panel
  shown := lastView? ▸ follows.shown

/-- A step that stops leaves the changes that it drained unshown. -/
theorem of_stopped
    (follows : Follows shown? unshown session)
    {elapsed : Value α}
    {view? : Option (Grid α)}
    {fault : Fault α}
    {reached : Session α}
    (ends : session.StepEnds elapsed view? (.error fault) reached) :
    Follows shown? (unshown ++ session.effectiveChanges) reached := by
  have drained :
      Follows shown? (unshown ++ session.effectiveChanges) session.drained := by
    refine ⟨follows.valid.drained, fun shown isShown => ?_, follows.shown⟩
    rw [Panel.assignAll_append, ← follows.panel shown isShown]
    rfl
  have valid := ends.valid follows.valid
  cases ends with
  | unseen => exact drained
  | held => exact drained
  | blind => exact drained.of_unchanged valid rfl rfl

/-- A step without a frame that does not stop changes nothing. -/
theorem of_idle
    (follows : Follows shown? unshown session)
    {elapsed : Value α}
    {view? : Option (Grid α)}
    {reached : Session α}
    (ends : session.StepEnds elapsed view? (.ok none) reached) :
    reached.panel = session.panel ∧ shown?.isSome ∧
      Follows shown? unshown reached := by
  cases ends with
  | idle chosen uncalled =>
      obtain ⟨ineffective, _, _, near⟩ := needsFrame_eq_false uncalled
      have same : session.drained.panel = session.panel := by
        rw [drained_of_ineffective ineffective]
      have remembered : session.lastView?.isSome := by
        unfold viewDiffers at near
        split at near
        · cases near
        · next last seen =>
            have kept : session.lastView? = some last := seen
            simp [kept]
      exact ⟨same, follows.shown remembered,
        follows.of_unchanged follows.valid.drained same rfl⟩

/-- Every operation is followed. -/
theorem perform
    (follows : Follows shown? unshown session)
    (operation : Operation α) :
    Follows ((Event.shownPanel? ⟨session, operation⟩).or shown?)
      (Event.unshownAfter ⟨session, operation⟩ unshown)
      (session.perform operation).state := by
  have valid := follows.valid.perform operation
  cases operation using Operation.inputCases with
  | input operation input =>
      have scene := session.sameScene_perform input
      have unseen := Event.shownPanel?_of_isInput session input
      rw [unseen, Option.none_or, Event.unshownAfter_of_not_shown unseen,
        Event.lostChanges_of_isInput session input, List.append_nil]
      exact follows.of_unchanged valid scene.panel scene.lastView?
  | markStale =>
      have unseen : Event.shownPanel? ⟨session, .markStale⟩ = none := rfl
      have lossless : Event.lostChanges ⟨session, .markStale⟩ = [] := rfl
      rw [unseen, Option.none_or, Event.unshownAfter_of_not_shown unseen,
        lossless, List.append_nil]
      exact follows.of_unchanged valid rfl rfl
  | fetchProgram =>
      have unseen : Event.shownPanel? ⟨session, .fetchProgram⟩ = none := by
        rw [Event.shownPanel?, Event.outcome, perform_fetchProgram]
        cases session.fetchProgram.result <;> rfl
      have lossless : Event.lostChanges ⟨session, .fetchProgram⟩ = [] := rfl
      rw [unseen, Option.none_or, Event.unshownAfter_of_not_shown unseen,
        lossless, List.append_nil]
      rw [perform_fetchProgram] at valid ⊢
      exact follows.of_unchanged valid rfl rfl
  | step elapsed view? =>
      have ends := follows.valid.step_ends elapsed view?
      simp only [Event.unshownAfter, Event.shownPanel?, Event.lostChanges,
        Event.outcome, perform_step]
      generalize (session.step elapsed view?).result = result,
        (session.step elapsed view?).state = reached at ends ⊢
      cases result with
      | error fault => exact follows.of_stopped ends
      | ok update? =>
          cases update? with
          | none =>
              obtain ⟨_, _, followed⟩ := follows.of_idle ends
              simpa [Except.map] using followed
          | some frame =>
              exact ⟨ends.valid follows.valid, by simp [Except.map],
                by simp [Except.map]⟩

/-- A session begins with nothing shown and no view to remember. -/
theorem opening
    (stencilText : String)
    {panel : Panel α}
    (valid : panel.Valid)
    (settings : Settings α)
    (observer : Observer α) :
    Follows none [] (Session.opening stencilText panel settings observer) where
  valid := valid_opening stencilText valid settings observer
  panel := by
    intro shown isShown
    cases isShown
  shown := by
    intro remembered
    cases remembered

end Follows

/-- Every run is followed. -/
theorem follows_run
    (stencilText : String)
    {panel : Panel α}
    (valid : panel.Valid)
    (settings : Settings α)
    (observer : Observer α)
    (operations : List (Operation α)) :
    let session := opening stencilText panel settings observer
    Follows (session.shownPanel? operations) (session.unshownChanges operations)
      (session.run operations) := by
  intro session
  refine session.run_induction
    (motive := fun before reached =>
      Follows
        (session.shownPanel? before) (session.unshownChanges before) reached)
    (Follows.opening stencilText valid settings observer) ?_ operations
  intro before operation follows
  rw [shownPanel?, latest?_concat, unshownChanges_concat]
  exact follows.perform operation

/-- After a step without a frame, a control has the value that the last frame
showed if and only if this is also what it took last in the steps that stopped
since, if it took anything there. -/
theorem panel_agrees_iff_of_idle
    (stencilText : String)
    {panel : Panel α}
    (valid : panel.Valid)
    (settings : Settings α)
    (observer : Observer α)
    (before : List (Operation α))
    {elapsed : Value α}
    {view? : Option (Grid α)}
    (idle :
      (((opening stencilText panel settings observer).run before).step elapsed
        view?).result =
        .ok none) :
    let session := opening stencilText panel settings observer
    let reached := ((session.run before).step elapsed view?).state
    ∃ shown, session.shownPanel? before = some shown ∧
      ((∀ control, reached.panel.get control = shown.get control) ↔
        ∀ (control : Control) value,
          (ChangeQueue.mk (session.unshownChanges before)).lastValue?
            control.path = some value →
            value = shown.get control) := by
  intro session reached
  have follows :
      Follows (session.shownPanel? before) (session.unshownChanges before)
      (session.run before) :=
    follows_run stencilText valid settings observer before
  have ends := follows.valid.step_ends elapsed view?
  rw [idle] at ends
  obtain ⟨kept, wasShown, _⟩ := follows.of_idle ends
  obtain ⟨shown, isShown⟩ := Option.isSome_iff_exists.1 wasShown
  refine ⟨shown, isShown, ?_⟩
  have described :
      reached.panel = shown.assignAll (session.unshownChanges before) :=
    kept.trans (follows.panel shown isShown)
  simp only [described, Panel.get_assignAll]
  constructor
  · intro agrees control value last
    have agreed := agrees control
    rwa [last, Option.getD_some] at agreed
  · intro returns control
    cases last :
      (ChangeQueue.mk (session.unshownChanges before)).lastValue?
        control.path with
    | none => rfl
    | some value => exact returns control value last

/-- A step gave no frame and did not stop. -/
def isIdle : Except (Fault α) (Option (Frame α)) → Bool
  | .ok none => true
  | _ => false

omit [Scalar α] in
theorem eq_ok_none_of_isIdle
    {result : Except (Fault α) (Option (Frame α))}
    (idle : isIdle result = true) :
    result = .ok none := by
  unfold isIdle at idle
  split at idle
  · rfl
  · cases idle

/-- The view along the axes of the world. -/
def straightView : Grid Float := (Transform.ofTurn Mat3.identity).toGrid

/-- After a frame, the radius of the planet changes in a step that stops. -/
def losingRun : List (Operation Float) :=
  [.step (.real 0.5) (some straightView), .enqueue "planet.radius" (.real 0.9),
    .step (.real (-1.0)) (some straightView)]

/-- Where nothing moves by itself, the step after that gives no frame, and the
radius that was shown is gone. -/
theorem radius_unshown_of_losingRun :
    let session := opening "" Panel.still .initial .start
    let next := (session.run losingRun).step (.real 0.5) (some straightView)
    (Panel.still : Panel Float).Valid ∧ next.result = .ok none ∧
      (session.shownPanel? losingRun).map
          (fun shown =>
            (next.state.panel.quantity .planetRadius).same
              (shown.quantity .planetRadius)) =
        some false :=
  ⟨Panel.valid_still, eq_ok_none_of_isIdle (by decide +kernel),
    by decide +kernel⟩

/-- The change of the radius is the one that is left unshown. -/
theorem panel_agrees_iff_of_idle_losingRun :
    let session := opening "" Panel.still .initial .start
    let next := (session.run losingRun).step (.real 0.5) (some straightView)
    (Panel.still : Panel Float).Valid ∧ next.result = .ok none ∧
      ∃ shown, session.shownPanel? losingRun = some shown ∧
        ((∀ control, next.state.panel.get control = shown.get control) ↔
          ∀ (control : Control) value,
            (ChangeQueue.mk (session.unshownChanges losingRun)).lastValue?
                  control.path =
                some value →
              value = shown.get control) := by
  refine ⟨Panel.valid_still, ?idle, ?agrees⟩
  case idle => exact eq_ok_none_of_isIdle (by decide +kernel)
  case agrees =>
    refine panel_agrees_iff_of_idle "" Panel.valid_still .initial .start
      losingRun ?_
    exact eq_ok_none_of_isIdle (by decide +kernel)

end Session
end BlackHoleScene
