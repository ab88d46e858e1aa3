import BlackHoleScene.Proofs.Session.History

/-!
# What a step that stops leaves behind

A step that stops has drained the queue. It leaves the camera basis, the view of
the last frame and the text of the program as they were, and with one exception
the whole observer. That a view is no transform is found out only after the
observer moved on, and then the observer keeps its new place and the new reading
of its clock: `Session.observer_of_stopped`.
-/

namespace BlackHoleScene

variable {α : Type} [Scalar α]

namespace Session

/-- A frame is called for and the observer can move on, but the view, an even
array, is no transform. -/
structure MovesBlindly
    (session : Session α)
    (elapsed : Value α)
    (view? : Option (Grid α)) : Prop where
  view :
    ∃ view, view? = some view ∧ view.shape?.isSome ∧
      (∀ transform : Transform α, view ≠ transform.toGrid) ∧
      session.drained.needsFrame session.report view = .ok true
  moves : (session.observer.advance elapsed session.drained.panel).result.isOk

/-- A view that is no transform was supplied by the host, and is even. -/
theorem supplied_of_chooseView
    {session : Session α}
    {view? : Option (Grid α)}
    {view : Grid α}
    (chosen : session.chooseView view? = .ok view)
    (unread : ∀ transform : Transform α, view ≠ transform.toGrid) :
    view? = some view ∧ view.shape?.isSome := by
  unfold chooseView at chosen
  split at chosen
  · next supplied _ =>
      split at chosen
      · next even =>
          cases chosen
          exact ⟨rfl, even⟩
      · cases chosen
  · next last _ =>
      cases chosen
      exact absurd rfl (unread last)
  · obtain ⟨start, _, rfl⟩ := map_eq_ok_iff.1 chosen
    exact absurd rfl (unread start)

/-- A supplied view is chosen if it is even. -/
theorem chooseView_some
    (session : Session α)
    {view : Grid α}
    (even : view.shape?.isSome) :
    session.chooseView (some view) = .ok view := by
  simp [chooseView, even]

section Stopped

variable {session reached : Session α} {elapsed : Value α}
  {view? : Option (Grid α)}
  {fault : Fault α}

/-- Camera basis, last view and program text outlast a step that stops. -/
theorem StepEnds.scene_of_stopped
    (ends : session.StepEnds elapsed view? (.error fault) reached) :
    reached.observer.orientation = session.observer.orientation ∧
      reached.lastView? = session.lastView? ∧
      reached.program.text? = session.program.text? ∧
      reached.program.timesCompiled = session.program.timesCompiled := by
  cases ends with
  | unseen => exact ⟨rfl, rfl, rfl, rfl⟩
  | held => exact ⟨rfl, rfl, rfl, rfl⟩
  | blind => exact ⟨Observer.advance_orientation _ _ _, rfl, rfl, rfl⟩

/-- The observer moves on in a step that stops exactly when it moves blindly. -/
theorem StepEnds.moves_or_stays_of_stopped
    (ends : session.StepEnds elapsed view? (.error fault) reached) :
    (session.MovesBlindly elapsed view? ∧
        reached.observer =
          (session.observer.advance elapsed session.drained.panel).state) ∨
      (¬session.MovesBlindly elapsed view? ∧
        reached.observer = session.observer) := by
  cases ends with
  | unseen cause =>
      refine .inr ⟨fun blindly => ?_, rfl⟩
      obtain ⟨view, rfl, even, _, called⟩ := blindly.view
      have chosen := session.drained.chooseView_some even
      rcases cause with unchosen | ⟨other, found, uncompared⟩
      · cases chosen.symm.trans unchosen
      · cases chosen.symm.trans found
        cases called.symm.trans uncompared
  | held chosen called stopped =>
      refine .inr ⟨fun blindly => ?_, rfl⟩
      have moves := blindly.moves
      rw [stopped] at moves
      cases moves
  | @blind view _ step chosen called moved unread =>
      have unwritten :
          ∀ transform : Transform α, view ≠ transform.toGrid := by
        rintro transform rfl
        cases unread.symm.trans (Transform.ofGrid_eq_ok_iff.2 rfl)
      obtain ⟨supplied, even⟩ := supplied_of_chooseView chosen unwritten
      refine .inl
        ⟨⟨⟨view, supplied, even, unwritten, called⟩, ?_⟩, rfl⟩
      rw [moved]
      rfl

end Stopped

/-- After a step that stops, camera basis, last view and program text are what
they were. So is the rest of the observer, unless it moved blindly: then it is
where the advance left it. -/
theorem observer_of_stopped
    (stencilText : String)
    {panel : Panel α}
    (valid : panel.Valid)
    (settings : Settings α)
    (observer : Observer α)
    (before : List (Operation α))
    {elapsed : Value α}
    {view? : Option (Grid α)}
    {fault : Fault α}
    (stopped :
      (((opening stencilText panel settings observer).run before).step elapsed
        view?).result =
        .error fault) :
    let session := (opening stencilText panel settings observer).run before
    let reached := (session.step elapsed view?).state
    reached.observer.orientation = session.observer.orientation ∧
      reached.lastView? = session.lastView? ∧
      reached.program.text? = session.program.text? ∧
      reached.program.timesCompiled = session.program.timesCompiled ∧
      ((session.MovesBlindly elapsed view? ∧
          reached.observer =
            (session.observer.advance elapsed session.drained.panel).state) ∨
        (¬session.MovesBlindly elapsed view? ∧
          reached.observer = session.observer)) := by
  intro session reached
  have running : session.Valid :=
    (valid_opening stencilText valid settings observer).run before
  have ends := running.step_ends elapsed view?
  rw [stopped] at ends
  obtain ⟨orientation, lastView?, text?, timesCompiled⟩ :=
    ends.scene_of_stopped
  exact ⟨orientation, lastView?, text?, timesCompiled,
    ends.moves_or_stays_of_stopped⟩

/-- A view of three rows of three. -/
def flatView : Grid Float := Mat3.identity.toGrid

/-- The clock of an observer at rest has run on in a first step that stops for
such a view. -/
theorem properTime_moved_of_flatView :
    let session := (opening "" Panel.resting .initial .start).run []
    let next := session.step (.real 0.5) (some flatView)
    (Panel.resting : Panel Float).Valid ∧ next.result.isOk = false ∧
      next.state.observer.properTime ≠ session.observer.properTime := by
  refine ⟨Panel.valid_resting, ?stopped, ?moved⟩
  case stopped => decide +kernel
  case moved => decide +kernel

/-- That observer moved blindly. -/
theorem observer_of_stopped_flatView :
    let session := (opening "" Panel.resting .initial .start).run []
    let reached := (session.step (.real 0.5) (some flatView)).state
    (Panel.resting : Panel Float).Valid ∧
      (∃ fault,
        (session.step (.real 0.5) (some flatView)).result = .error fault) ∧
      reached.observer.orientation = session.observer.orientation ∧
        reached.lastView? = session.lastView? ∧
        reached.program.text? = session.program.text? ∧
        reached.program.timesCompiled = session.program.timesCompiled ∧
        ((session.MovesBlindly (.real 0.5) (some flatView) ∧
            reached.observer =
              (session.observer.advance (.real 0.5)
                session.drained.panel).state) ∨
          (¬session.MovesBlindly (.real 0.5) (some flatView) ∧
            reached.observer = session.observer)) := by
  have stopped :
      ∃ fault,
        (((opening "" Panel.resting .initial .start).run []).step (.real 0.5)
          (some flatView)).result = .error fault :=
    exists_error_of_isOk_eq_false (by decide +kernel)
  refine ⟨Panel.valid_resting, stopped, ?_⟩
  obtain ⟨fault, stoppedBy⟩ := stopped
  exact observer_of_stopped "" Panel.valid_resting .initial .start [] stoppedBy

end Session
end BlackHoleScene
