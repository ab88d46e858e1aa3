import BlackHoleScene.Proofs.Observer.Clock
import BlackHoleScene.Proofs.Session.Pausing
import BlackHoleScene.Proofs.Session.RegularRun
import BlackHoleScene.Proofs.Session.ShownPanel

/-!
# Steps while a session is paused

A pause is no more than a time scale of zero that is queued. It holds until
another time scale is accepted, and it never takes hold if the queue is
forgotten before a step drained it; the session counts as paused all the same,
and its clock runs. A pause that nothing takes back stops the clock:
`Session.timeScale_isZero_and_properTime_eq_iff_of_paused`.
-/

namespace BlackHoleScene

variable {α : Type} [Scalar α]

/-- The value is zero, or counts as zero. -/
def Value.IsZero (value : Value α) : Prop :=
  value = .real 0.0 ∨ value.same (.real 0.0) = true

/-- Over the real numbers, only zero counts as zero. -/
theorem Value.isZero_real_iff {x : ℝ} : (Value.real x).IsZero ↔ x = 0 := by
  simp [IsZero, same, Number.same_iff]

/-- The operation pauses the session. -/
def Event.pauses (event : Event α) : Bool :=
  match event.operation, event.outcome.result with
  | .pauseOrResume, .ok (.paused isPaused) => isPaused
  | _, _ => false

/-- A step is among the operations. -/
def HasStep (operations : List (Operation α)) : Prop :=
  ∃ elapsed view?, .step elapsed view? ∈ operations

/-- The operations take no pause back that came before them: no time scale but
zero is accepted, and queued changes are forgotten only after a step drained
them. -/
structure Undisturbed (since : List (Operation α)) : Prop where
  scale :
    ∀ value accepted, .enqueue Quantity.timeScale.path value ∈ since →
      (Control.quantity .timeScale).accept value = .ok accepted →
        accepted = .real 0.0
  drained :
    ∀ early late, since = early ++ .discardChanges :: late → HasStep early

/-- The part of undisturbed operations without the last is undisturbed. -/
theorem Undisturbed.of_concat
    {since : List (Operation α)}
    {operation : Operation α}
    (undisturbed : Undisturbed (since ++ [operation])) :
    Undisturbed since where
  scale := by
    intro value accepted member
    exact undisturbed.scale value accepted (List.mem_append_left _ member)
  drained := by
    rintro early late rfl
    exact undisturbed.drained early (late ++ [operation]) (by simp)

/-- Once a step drained the pause, only another time scale disturbs it. -/
theorem Undisturbed.of_step_cons
    {elapsed : Value α}
    {view? : Option (Grid α)}
    {rest : List (Operation α)}
    (scale :
      ∀ value accepted, .enqueue Quantity.timeScale.path value ∈ rest →
        (Control.quantity .timeScale).accept value = .ok accepted →
          accepted = .real 0.0) :
    Undisturbed (.step elapsed view? :: rest) where
  scale := by
    intro value accepted member
    exact scale value accepted (by simpa using member)
  drained := by
    intro early late cut
    cases early with
    | nil => cases cut
    | cons first others =>
        cases cut
        exact ⟨elapsed, view?, List.mem_cons_self⟩

namespace Session

/-- The operations since the session was paused last. -/
def sincePause
    (session : Session α)
    (operations : List (Operation α)) : List (Operation α) :=
  let events :=
    (session.events operations).reverse.takeWhile fun event => !event.pauses
  events.reverse.map Event.operation

/-- The operations since the last pause are found operation by operation. -/
theorem sincePause_concat
    (session : Session α)
    (before : List (Operation α))
    (operation : Operation α) :
    session.sincePause (before ++ [operation]) =
      if Event.pauses ⟨session.run before, operation⟩ then []
      else session.sincePause before ++ [operation] := by
  simp only [sincePause, events_concat, List.reverse_append,
    List.reverse_singleton, List.singleton_append, List.takeWhile_cons]
  cases Event.pauses ⟨session.run before, operation⟩ <;> simp

/-- After a pause, the operations since the last pause are those that follow,
unless they pause or resume again. -/
theorem sincePause_of_pauses
    {session : Session α}
    {before since : List (Operation α)}
    (pauses : Event.pauses ⟨session.run before, .pauseOrResume⟩ = true)
    (others : ∀ operation ∈ since, operation ≠ .pauseOrResume) :
    session.sincePause (before ++ .pauseOrResume :: since) = since := by
  induction since using List.reverseRecOn with
  | nil => rw [sincePause_concat, if_pos pauses]
  | append_singleton since operation ih =>
      have different : operation ≠ .pauseOrResume :=
        others operation (List.mem_append_right since List.mem_cons_self)
      have continues :
          ∀ reached : Session α,
            Event.pauses ⟨reached, operation⟩ = false := by
        intro reached
        cases operation <;> first | rfl | exact absurd rfl different
      have later : before ++ .pauseOrResume :: (since ++ [operation]) =
          (before ++ .pauseOrResume :: since) ++ [operation] := by simp
      rw [later, sincePause_concat, continues, ih]
      · rfl
      · intro earlier member
        exact others earlier (List.mem_append_left _ member)

/-! ### The time scale that a session heads for -/

/-- An accepted value is queued last for its control; a refused one leaves the
session as it was. -/
theorem enqueue_cases
    (session : Session α)
    (path : String)
    (value : Value α) :
    (∃ fault, (session.enqueue path value).result = .error fault ∧
      (session.enqueue path value).state = session) ∨
    ∃ control accepted,
      control.path = path ∧ control.accept value = .ok accepted ∧
      (session.enqueue path value).result = .ok () ∧
      (session.enqueue path value).state =
        { session with
          queue :=
            ⟨session.queue.pending ++ [⟨control, accepted⟩]⟩ } := by
  unfold enqueue
  cases queued : session.queue.enqueue path value with
  | error fault => exact .inl ⟨fault, rfl, rfl⟩
  | ok queue =>
      obtain ⟨control, named, found⟩ := bind_eq_ok_iff.1 queued
      obtain ⟨accepted, taken, added⟩ := bind_eq_ok_iff.1 found
      cases added
      exact .inr
        ⟨control, accepted, Control.path_of_ofPath named, taken, rfl, rfl⟩

/-- Pausing and resuming stop without effect, or turn the pause around. A pause
leaves the zero queued last. -/
theorem pauseOrResume_cases (session : Session α) :
    let toggled := session.pauseOrResume
    (∃ fault,
      toggled.result = .error fault ∧
      toggled.state.paused = session.paused ∧
      toggled.state.panel = session.panel ∧
        toggled.state.queue = session.queue) ∨
    (toggled.result = .ok false ∧ toggled.state.paused = false) ∨
    (toggled.result = .ok true ∧ toggled.state.panel = session.panel ∧
      toggled.state.queue =
        ⟨session.queue.pending ++
          [⟨.quantity .timeScale, .real 0.0⟩]⟩) := by
  intro toggled
  cases paused : session.paused with
  | true =>
      have resumes : toggled = (session.enqueue Quantity.timeScale.path
          (if session.resumeScale.isTruthy then session.resumeScale
          else .real 1.0)).andThen
            fun queued () => .done { queued with paused := false } false :=
        if_pos paused
      rw [resumes]
      rcases session.enqueue_cases Quantity.timeScale.path
          (if session.resumeScale.isTruthy then session.resumeScale
          else .real 1.0) with
        ⟨fault, refused, kept⟩ | ⟨_, _, _, _, taken, _⟩
      · left
        obtain ⟨result, state⟩ := Outcome.andThen_of_error refused
          fun queued () => Outcome.done { queued with paused := false } false
        rw [result, state, kept]
        exact ⟨fault, rfl, paused, rfl, rfl⟩
      · right
        left
        obtain ⟨result, state⟩ := Outcome.andThen_of_ok taken
          fun queued () => Outcome.done { queued with paused := false } false
        rw [result, state]
        exact ⟨rfl, rfl⟩
  | false =>
      let remembered : Session α :=
        { session with resumeScale := session.effectiveTimeScale }
      have pauses :
          toggled =
            (remembered.enqueue Quantity.timeScale.path (.real 0.0)).andThen
          fun queued () => .done { queued with paused := true } true :=
        if_neg (by simp [paused])
      rw [pauses]
      rcases remembered.enqueue_cases Quantity.timeScale.path (.real 0.0) with
        ⟨fault, refused, kept⟩ |
          ⟨control, accepted, named, accepts, taken, left⟩
      · left
        obtain ⟨result, state⟩ := Outcome.andThen_of_error refused
          fun queued () => Outcome.done { queued with paused := true } true
        rw [result, state, kept]
        exact ⟨fault, rfl, paused, rfl, rfl⟩
      · right
        right
        obtain rfl : control = .quantity .timeScale :=
          Control.eq_of_path_eq named
        cases Control.eq_of_accept_real accepts
        obtain ⟨result, state⟩ := Outcome.andThen_of_ok taken
          fun queued () => Outcome.done { queued with paused := true } true
        rw [result, state, left]
        exact ⟨rfl, rfl, rfl⟩

/-- A drain leaves the time scale on the panel as it is if none is queued, and
otherwise gives it the value queued last, or leaves one that counts as the same.
-/
theorem timeScale_drained_cases (session : Session α) :
    (session.queue.lastValue? Quantity.timeScale.path = none ∧
      session.drained.panel.quantity .timeScale =
        session.panel.quantity .timeScale) ∨
    ∃ value, session.queue.lastValue? Quantity.timeScale.path = some value ∧
      (session.drained.panel.quantity .timeScale = value ∨
        (session.drained.panel.quantity .timeScale).same value = true) := by
  have agrees :=
    ChangeQueue.get_assignAll_effective session.panel session.queue.pending
      (.quantity .timeScale)
  cases last : (ChangeQueue.mk session.queue.pending).lastValue?
      (Control.quantity .timeScale).path with
  | none =>
      rw [last] at agrees
      exact .inl ⟨last, agrees⟩
  | some value =>
      rw [last] at agrees
      exact .inr ⟨value, last, agrees⟩

/-- A drain puts the time scale on the panel that the session heads for, or one
that is equal in value. -/
theorem timeScale_drained_eq_or_same (session : Session α) :
    session.drained.panel.quantity .timeScale = session.effectiveTimeScale ∨
      (session.drained.panel.quantity .timeScale).same
        session.effectiveTimeScale = true := by
  rw [effectiveTimeScale]
  rcases session.timeScale_drained_cases with ⟨unqueued, kept⟩ |
    ⟨value, queued, agrees⟩
  · rw [unqueued, kept]
    exact .inl rfl
  · rw [queued]
    exact agrees

/-- The session heads for a time scale of zero, and has it on its panel already
if that was drained. -/
structure Frozen (session : Session α) (drained : Prop) : Prop where
  heading :
    session.queue.lastValue? Quantity.timeScale.path = some (.real 0.0) ∨
      session.queue.lastValue? Quantity.timeScale.path = none ∧
        (session.panel.quantity .timeScale).IsZero
  settled : drained → (session.panel.quantity .timeScale).IsZero

namespace Frozen

variable {session reached : Session α} {drained other : Prop}

/-- What leaves panel and queue as they are keeps the session frozen. -/
theorem of_unchanged
    (frozen : session.Frozen drained)
    (panel : reached.panel = session.panel)
    (queue : reached.queue = session.queue)
    (sooner : other → drained) :
    reached.Frozen other where
  heading := by
    rw [panel, queue]
    exact frozen.heading
  settled := by
    intro later
    rw [panel]
    exact frozen.settled (sooner later)

/-- So does one more change, unless it gives another time scale. -/
theorem of_enqueued
    (frozen : session.Frozen drained)
    {change : Change α}
    (scale : change.control = .quantity .timeScale → change.value = .real 0.0)
    (sooner : other → drained) :
    Session.Frozen
      { session with queue := ⟨session.queue.pending ++ [change]⟩ }
      other where
  heading := by
    rw [ChangeQueue.lastValue?_concat]
    by_cases named : change.control.path = Quantity.timeScale.path
    · left
      have isScale : change.control = .quantity .timeScale :=
        Control.eq_of_path_eq named
      rw [if_pos named, scale isScale]
    · rw [if_neg named]
      exact frozen.heading
  settled := fun later => frozen.settled (sooner later)

/-- With its time scale settled, a frozen session may forget what is queued. -/
theorem of_discarded
    (frozen : session.Frozen drained)
    (settled : drained) :
    session.discardChanges.Frozen other where
  heading := .inr ⟨rfl, frozen.settled settled⟩
  settled := fun _ => frozen.settled settled

/-- A drain puts the zero on the panel. -/
theorem isZero_drained (frozen : session.Frozen drained) :
    (session.drained.panel.quantity .timeScale).IsZero := by
  rcases session.timeScale_drained_cases with ⟨unqueued, kept⟩ |
    ⟨value, queued, agrees⟩
  · rcases frozen.heading with last | ⟨_, zero⟩
    · cases unqueued.symm.trans last
    · rwa [kept]
  · rcases frozen.heading with last | ⟨unqueued, _⟩
    · cases queued.symm.trans last
      exact agrees
    · cases queued.symm.trans unqueued

end Frozen

omit [Scalar α] in
/-- An operation other than a step adds none. -/
theorem hasStep_of_concat
    {since : List (Operation α)}
    {operation : Operation α}
    (other : ∀ elapsed view?, operation ≠ .step elapsed view?)
    (later : HasStep (since ++ [operation])) :
    HasStep since := by
  obtain ⟨elapsed, view?, member⟩ := later
  rcases List.mem_append.1 member with old | new
  · exact ⟨elapsed, view?, old⟩
  · exact absurd (List.mem_singleton.1 new).symm (other elapsed view?)

section Perform

variable {session : Session α} {since : List (Operation α)}

/-- An operation keeps a session frozen that is paused afterwards, unless it
disturbs the pause. -/
theorem frozen_perform
    (valid : session.queue.Valid)
    (frozen :
      session.paused = true → Undisturbed since →
        session.Frozen (HasStep since))
    {operation : Operation α}
    (continues : Event.pauses ⟨session, operation⟩ = false)
    (paused : (session.perform operation).state.paused = true)
    (undisturbed : Undisturbed (since ++ [operation])) :
    (session.perform operation).state.Frozen
      (HasStep (since ++ [operation])) := by
  have undisturbedBefore := undisturbed.of_concat
  cases operation with
  | enqueue path value =>
      rw [perform_enqueue] at paused ⊢
      have sooner :
          HasStep (since ++ [.enqueue path value]) → HasStep since :=
        hasStep_of_concat (by simp)
      rcases session.enqueue_cases path value with
        ⟨fault, _, kept⟩ | ⟨control, accepted, rfl, accepts, _, left⟩
      · rw [kept] at paused ⊢
        exact (frozen paused undisturbedBefore).of_unchanged rfl rfl sooner
      · rw [left] at paused ⊢
        refine (frozen paused undisturbedBefore).of_enqueued ?_ sooner
        rintro rfl
        exact undisturbed.scale value accepted
          (List.mem_append_right since List.mem_cons_self)
          accepts
  | discardChanges =>
      have drained := undisturbed.drained since [] rfl
      exact (frozen paused undisturbedBefore).of_discarded drained
  | pauseOrResume =>
      rw [perform_pauseOrResume] at paused ⊢
      rcases session.pauseOrResume_cases with
        ⟨fault, _, unturned, panel, queue⟩ | ⟨_, resumed⟩ |
          ⟨pausing, _⟩
      · rw [unturned] at paused
        exact (frozen paused undisturbedBefore).of_unchanged panel queue
          (hasStep_of_concat (by simp))
      · cases paused.symm.trans resumed
      · simp [Event.pauses, Event.outcome, pausing, Except.map] at continues
  | markStale =>
      exact (frozen paused undisturbedBefore).of_unchanged rfl rfl
        (hasStep_of_concat (by simp))
  | fetchProgram =>
      rw [perform_fetchProgram] at paused ⊢
      exact (frozen paused undisturbedBefore).of_unchanged rfl rfl
        (hasStep_of_concat (by simp))
  | step elapsed view? =>
      obtain ⟨observer, program, lastView?, left⟩ :=
        step_scene valid elapsed view?
      rw [perform_step] at paused ⊢
      rw [left] at paused ⊢
      have zero := (frozen paused undisturbedBefore).isZero_drained
      exact ⟨.inr ⟨rfl, zero⟩, fun _ => zero⟩

/-- A pause freezes the session. -/
theorem frozen_of_pauses
    {operation : Operation α}
    (pauses : Event.pauses ⟨session, operation⟩ = true) :
    (session.perform operation).state.Frozen
      (HasStep ([] : List (Operation α))) := by
  cases operation with
  | pauseOrResume =>
      rw [perform_pauseOrResume]
      rcases session.pauseOrResume_cases with
        ⟨fault, stopped, _⟩ | ⟨resumed, _⟩ | ⟨_, _, queue⟩
      · simp [Event.pauses, Event.outcome, stopped, Except.map] at pauses
      · simp [Event.pauses, Event.outcome, resumed, Except.map] at pauses
      · refine ⟨.inl ?_, ?_⟩
        · rw [queue, ChangeQueue.lastValue?_concat]
          exact if_pos rfl
        · rintro ⟨elapsed, view?, member⟩
          cases member
  | enqueue path value => cases pauses
  | discardChanges => cases pauses
  | markStale => cases pauses
  | fetchProgram => cases pauses
  | step elapsed view? => cases pauses

end Perform

/-- A session that is paused after a run is frozen if nothing disturbed the
pause. -/
theorem frozen_run
    (stencilText : String)
    (panel : Panel α)
    (settings : Settings α)
    (observer : Observer α)
    (operations : List (Operation α)) :
    let session := opening stencilText panel settings observer
    (session.run operations).paused = true →
      Undisturbed (session.sincePause operations) →
      (session.run operations).Frozen
        (HasStep (session.sincePause operations)) := by
  intro session
  refine session.run_induction
    (motive := fun before reached =>
      reached.paused = true → Undisturbed (session.sincePause before) →
        reached.Frozen (HasStep (session.sincePause before)))
    ?nil ?concat operations
  case nil =>
    intro paused
    cases paused
  case concat =>
    intro before operation frozen paused
    rw [sincePause_concat]
    cases pauses : Event.pauses ⟨session.run before, operation⟩ with
    | true => exact fun _ => frozen_of_pauses pauses
    | false =>
        intro undisturbed
        have valid : (session.run before).queue.Valid :=
          valid_queue_run ChangeQueue.valid_empty before
        exact frozen_perform valid frozen pauses paused undisturbed

/-! ### The clock -/

section Clock

variable {session : Session ℝ}

/-- Over the real numbers, a drain puts the time scale on the panel that a valid
session heads for. -/
theorem timeScale_drained (valid : session.Valid) :
    session.drained.panel.quantity .timeScale = session.effectiveTimeScale := by
  rcases session.timeScale_drained_eq_or_same with equal | equal
  · exact equal
  · obtain ⟨x, heading, _⟩ :=
      Control.valid_quantity_iff.1 valid.effectiveTimeScale
    obtain ⟨y, drained, _⟩ := valid.drained.panel.quantity_eq .timeScale
    rw [drained, heading] at equal ⊢
    simp only [Value.same, decide_eq_true_eq, Number.same_iff,
      Number.value_real] at equal
    rw [equal]

/-- A step leaves the clock as it is exactly if no wall-clock time passes, or it
gives no frame, or the time scale that the session heads for is zero. -/
theorem properTime_step_eq_iff
    (valid : session.Valid)
    {seconds : Number ℝ}
    (forward : 0 ≤ seconds.value)
    (view? : Option (Transform ℝ)) :
    let stepped := session.step (.number seconds) (view?.map Transform.toGrid)
    stepped.state.observer.properTime = session.observer.properTime ↔
      seconds.value = 0 ∨ (∀ frame, stepped.result ≠ .ok (some frame)) ∨
        session.effectiveTimeScale = .real 0 := by
  intro stepped
  have supplied : ∀ grid, view?.map Transform.toGrid = some grid →
      ∃ view : Transform ℝ, grid = view.toGrid ∧ True := by
    intro grid isSupplied
    obtain ⟨view, _, rfl⟩ := Option.map_eq_some_iff.1 isSupplied
    exact ⟨view, rfl, trivial⟩
  obtain ⟨view, seen, _⟩ :=
    session.drained.exists_chooseView_eq supplied (fun _ _ => trivial)
      fun _ _ => trivial
  have ends :
      session.StepEnds
        (.number seconds) (view?.map Transform.toGrid) stepped.result
      stepped.state :=
    valid.step_ends _ _
  generalize stepped.result = result, stepped.state = reached at ends ⊢
  cases ends with
  | unseen cause => exact absurd cause (not_unseen seen)
  | idle => simp [Session.drained]
  | held => simp [Session.drained]
  | blind chosen called moved unread =>
      cases seen.symm.trans chosen
      cases unread.symm.trans (Transform.ofGrid_eq_ok_iff.2 rfl)
  | @framed _ transform frame chosen called moved read frames =>
      obtain ⟨scale, scaled, _⟩ := valid.drained.panel.timeScale_eq
      have heads : session.effectiveTimeScale = .real scale :=
        (timeScale_drained valid).symm.trans scaled
      have moves :=
        Observer.properTime_advance_eq_iff
          valid.drained.panel forward scaled moved
      simpa [shown, heads] using moves

end Clock

/-- While nothing disturbs a pause, a drain finds a time scale of zero. Over the
reals, a paused step keeps the clock exactly if no time passes, it gives no
frame, or the scale is zero. -/
theorem timeScale_isZero_and_properTime_eq_iff_of_paused
    (stencilText : String) :
    (∀ {β : Type} [Scalar β]
      (panel : Panel β) (settings : Settings β) (observer : Observer β)
      (before : List (Operation β)),
      let session := opening stencilText panel settings observer
      let reached := session.run before
      reached.paused = true → Undisturbed (session.sincePause before) →
        (reached.drain.state.panel.quantity .timeScale).IsZero) ∧
    ∀ (panel : Panel ℝ) (settings : Settings ℝ) (observer : Observer ℝ)
      (before : List (Operation ℝ)) (seconds : Number ℝ)
      (view? : Option (Transform ℝ)),
      let session := opening stencilText panel settings observer
      let reached := session.run before
      let stepped := reached.step (.number seconds) (view?.map Transform.toGrid)
      panel.Valid → reached.paused = true → 0 ≤ seconds.value →
        (stepped.state.observer.properTime = reached.observer.properTime ↔
          seconds.value = 0 ∨
            (∀ frame, stepped.result ≠ .ok (some frame)) ∨
            reached.effectiveTimeScale = .real 0) ∧
        (Undisturbed (session.sincePause before) →
          stepped.state.observer.properTime = reached.observer.properTime) := by
  refine ⟨?frozen, ?clock⟩
  case frozen =>
    intro β _ panel settings observer before session reached paused undisturbed
    have frozen : reached.Frozen (HasStep (session.sincePause before)) :=
      frozen_run stencilText panel settings observer before paused undisturbed
    have valid : reached.queue.Valid :=
      valid_queue_run ChangeQueue.valid_empty before
    rw [(reached.drain_eq valid).2]
    exact frozen.isZero_drained
  case clock =>
    intro panel settings observer before seconds view? session reached stepped
      valid paused forward
    have running : reached.Valid :=
      (valid_opening stencilText valid settings observer).run before
    have clock := properTime_step_eq_iff running forward view?
    refine ⟨clock, ?_⟩
    intro undisturbed
    have frozen : reached.Frozen (HasStep (session.sincePause before)) :=
      frozen_run stencilText panel settings observer before paused undisturbed
    obtain ⟨scale, scaled, _⟩ := running.drained.panel.timeScale_eq
    have zero := frozen.isZero_drained
    rw [scaled, Value.isZero_real_iff] at zero
    apply clock.2
    right
    right
    rw [← timeScale_drained running, scaled, zero]

/-- The zero of a pause is forgotten before a step drained it, or another time
scale takes its place: the session counts as paused, and its clock runs. -/
theorem properTime_moved_of_paused :
    let session := opening "" Panel.resting .initial .start
    let forgotten := session.run [.pauseOrResume, .discardChanges]
    let overwritten :=
      session.run [.pauseOrResume, .enqueue "time_scale" (.real 1.0)]
    (Panel.resting : Panel Float).Valid ∧
      (forgotten.paused = true ∧
        (forgotten.step (.real 0.5)
          (some straightView)).state.observer.properTime ≠
          forgotten.observer.properTime) ∧
      overwritten.paused = true ∧
        (overwritten.step (.real 0.5)
          (some straightView)).state.observer.properTime ≠
          overwritten.observer.properTime := by
  refine ⟨Panel.valid_resting, ⟨?forgottenPaused, ?forgottenMoved⟩,
    ?overwrittenPaused, ?overwrittenMoved⟩
  all_goals decide +kernel

/-- Over the real numbers, a session can always be paused. -/
theorem pauses_of_running
    {session : Session ℝ}
    (running : session.paused = false) :
    Event.pauses ⟨session, .pauseOrResume⟩ = true ∧
      (session.perform .pauseOrResume).state.paused = true := by
  obtain ⟨pauses, left⟩ := session.pauseOrResume_of_running running
  rw [Event.pauses, Event.outcome, perform_pauseOrResume, pauses]
  exact ⟨rfl, by rw [left]⟩

/-- A pause that a step drained is undisturbed when what is queued after that is
forgotten. -/
theorem undisturbed_of_drained_pause
    {session : Session α}
    {elapsed : Value α}
    {view? : Option (Grid α)}
    (pauses : Event.pauses ⟨session, .pauseOrResume⟩ = true) :
    Undisturbed
      (session.sincePause
        [.pauseOrResume, .step elapsed view?, .discardChanges]) := by
  have begins : Event.pauses ⟨session.run [], .pauseOrResume⟩ = true :=
    pauses
  let since : List (Operation α) := [.step elapsed view?, .discardChanges]
  have others : ∀ operation ∈ since, operation ≠ .pauseOrResume := by
    simp [since]
  have found : session.sincePause (.pauseOrResume :: since) = since :=
    sincePause_of_pauses begins others
  rw [found]
  apply Undisturbed.of_step_cons
  intro value accepted member
  simp at member

/-- The zero of a pause is drained, and then nothing that is forgotten brings
time back. -/
theorem timeScale_isZero_and_properTime_eq_iff_of_paused_drained :
    (let session : Session Float := opening "" Panel.resting .initial .start
      let before :=
        [.pauseOrResume, .step (.real 0.5) (some straightView), .discardChanges]
      let reached := session.run before
      reached.paused = true ∧ Undisturbed (session.sincePause before) ∧
        (reached.drain.state.panel.quantity .timeScale).IsZero) ∧
    let session : Session ℝ := opening "" Panel.resting .initial .start
    let before : List (Operation ℝ) :=
      [.pauseOrResume, .step (.real 1) none, .discardChanges]
    let reached := session.run before
    let stepped := reached.step (.number (.real 1)) none
    (Panel.resting : Panel ℝ).Valid ∧ reached.paused = true ∧
      (0 : ℝ) ≤ (Number.real 1).value ∧
      Undisturbed (session.sincePause before) ∧
      (stepped.state.observer.properTime = reached.observer.properTime ↔
        (Number.real 1).value = (0 : ℝ) ∨
          (∀ frame, stepped.result ≠ .ok (some frame)) ∨
          reached.effectiveTimeScale = .real 0) ∧
      stepped.state.observer.properTime = reached.observer.properTime := by
  constructor
  · intro session before reached
    have paused : reached.paused = true := by decide +kernel
    have held : Undisturbed (session.sincePause before) :=
      undisturbed_of_drained_pause (by decide +kernel)
    have zero := (timeScale_isZero_and_properTime_eq_iff_of_paused "").1
      (Panel.resting : Panel Float) .initial .start before paused held
    exact ⟨paused, held, by simpa only [reached, session] using zero⟩
  · intro session before reached stepped
    have valid : (Panel.resting : Panel ℝ).Valid :=
      Panel.valid_initial_real.assign rfl
    have running : session.paused = false := rfl
    obtain ⟨pauses, pausedFirst⟩ := pauses_of_running running
    have held : Undisturbed (session.sincePause before) :=
      undisturbed_of_drained_pause pauses
    have paused : reached.paused = true := by
      have queue : (session.perform .pauseOrResume).state.queue.Valid :=
        valid_queue_perform ChangeQueue.valid_empty .pauseOrResume
      obtain ⟨_, _, _, left⟩ := step_scene queue (.real 1) none
      have scene : reached =
          ((session.perform .pauseOrResume).state.step (.real 1)
            none).state.discardChanges := by
        simp only [reached, before, run_cons, run_nil, perform_step]
        rfl
      rw [scene, left]
      exact pausedFirst
    obtain ⟨clock, stands⟩ :=
      (timeScale_isZero_and_properTime_eq_iff_of_paused "").2 Panel.resting
        .initial Observer.start before (.real 1) none valid paused zero_le_one
    exact ⟨valid, paused, zero_le_one, held, clock, stands held⟩

end Session

end BlackHoleScene
