import BlackHoleScene.Proofs.Scalar.Double
import BlackHoleScene.Proofs.Session.PausedStep

/-!
# The time scale after pauses

A session keeps its time scale in three places: on the panel, in the queue, and
remembered for the resumption. However often it is paused and resumed, and
whatever is drained in between, the three agree as long as no other time scale
is queued: while the session is paused it heads for a time scale of zero, and
while it runs, for the one before the first pause, or for one if that is zero:
`Session.effectiveTimeScale_of_pauses`.
-/

namespace BlackHoleScene

variable {α : Type} [Scalar α]

/-- The operation neither queues a time scale nor forgets one. -/
def Operation.SparesTimeScale : Operation α → Prop
  | .enqueue path value =>
      path = Quantity.timeScale.path →
        ∀ accepted,
          (Control.quantity .timeScale).accept value ≠ .ok accepted
  | .discardChanges => False
  | _ => True

namespace Session

/-- While it is paused, the session heads for a time scale of zero and remembers
one for the target. While it runs, it heads for one that a pause leads back to
the target. -/
structure HeadsFor
    (session : Session α)
    (target : Value α)
    (turned : Prop) : Prop where
  paused :
    session.paused = true →
      session.effectiveTimeScale.same (.real 0.0) = true ∧
        session.resumeScale.restored = target
  running :
    session.paused = false →
      session.effectiveTimeScale.restored = target ∧
        (turned → session.effectiveTimeScale = target)

/-- However a step ends, the time scale on the panel is then the one that the
drained session heads for. -/
theorem timeScale_step
    {session : Session α}
    (valid : session.queue.Valid)
    (elapsed : Value α)
    (view? : Option (Grid α)) :
    (session.step elapsed view?).state.panel.quantity .timeScale =
      session.drained.effectiveTimeScale := by
  obtain ⟨_, _, _, left⟩ := step_scene valid elapsed view?
  rw [left]
  rfl

omit [Scalar α] in
/-- Another change leaves the time scale that the session heads for. -/
theorem effectiveTimeScale_enqueued
    (session : Session α)
    {control : Control}
    (value : Value α)
    (other : control.path ≠ Quantity.timeScale.path) :
    effectiveTimeScale
        { session with
          queue := ⟨session.queue.pending ++ [⟨control, value⟩]⟩ } =
      session.effectiveTimeScale := by
  rw [effectiveTimeScale, ChangeQueue.lastValue?_concat, if_neg other]
  rfl

omit [Scalar α] in
/-- The session heads for a time scale that is queued last. -/
theorem effectiveTimeScale_of_queued_last
    {session : Session α}
    {pending : List (Change α)}
    {scale : Value α}
    (queued :
      session.queue = ⟨pending ++ [⟨.quantity .timeScale, scale⟩]⟩) :
    session.effectiveTimeScale = scale := by
  have named : (Control.quantity .timeScale).path = Quantity.timeScale.path :=
    rfl
  rw [effectiveTimeScale, queued, ChangeQueue.lastValue?_concat, if_pos named]
  rfl

namespace HeadsFor

variable {session reached : Session α} {target : Value α}
  {turned other : Prop}

/-- What leaves the pause and both time scales as they are keeps the session
heading there. -/
theorem of_unchanged
    (headsFor : session.HeadsFor target turned)
    (paused : reached.paused = session.paused)
    (resumeScale : reached.resumeScale = session.resumeScale)
    (scale : reached.effectiveTimeScale = session.effectiveTimeScale)
    (sooner : other → turned) :
    reached.HeadsFor target other where
  paused := by
    rw [paused, resumeScale, scale]
    exact headsFor.paused
  running := by
    rw [paused, scale]
    intro runs
    obtain ⟨leads, settled⟩ := headsFor.running runs
    exact ⟨leads, fun later => settled (sooner later)⟩

variable [LawfulScalar α]

/-- A drain keeps the session heading there. -/
theorem drained
    (headsFor : session.HeadsFor target turned)
    (valid : session.Valid) :
    session.drained.HeadsFor target turned := by
  have placed :
      session.drained.effectiveTimeScale =
        session.drained.panel.quantity .timeScale := rfl
  have fits :
      (Control.quantity .timeScale).Valid
        (session.drained.panel.quantity .timeScale) :=
    valid.drained.panel (.quantity .timeScale)
  have heading := valid.effectiveTimeScale
  rcases session.timeScale_drained_eq_or_same with equal | equal
  · exact headsFor.of_unchanged rfl rfl (placed.trans equal) id
  · constructor
    · intro paused
      obtain ⟨zero, remembered⟩ := headsFor.paused paused
      rw [placed]
      refine ⟨?_, remembered⟩
      rcases Value.eq_or_zero_of_same fits heading equal with same |
        ⟨zeroToo, _⟩
      · rwa [same]
      · exact zeroToo
    · intro running
      obtain ⟨leads, settled⟩ := headsFor.running running
      rw [placed]
      refine ⟨(Value.restored_congr fits heading equal).trans leads,
        fun later => ?_⟩
      have atTarget :
          session.effectiveTimeScale = session.effectiveTimeScale.restored :=
        (settled later).trans leads.symm
      rw [atTarget] at equal
      exact (Value.eq_restored_of_same fits heading equal).trans leads

/-- Pausing or resuming turns the session to zero, or back to the target. -/
theorem pauseOrResume
    (headsFor : session.HeadsFor target turned)
    (valid : session.Valid) :
    session.pauseOrResume.state.HeadsFor target other := by
  cases paused : session.paused with
  | true =>
      obtain ⟨_, remembered⟩ := headsFor.paused paused
      rw [(pauseOrResume_of_paused valid paused).2]
      constructor
      · intro paused
        cases paused
      · intro _
        rw [effectiveTimeScale_of_queued_last rfl, Value.restored_restored,
          remembered]
        exact ⟨rfl, fun _ => rfl⟩
  | false =>
      obtain ⟨leads, _⟩ := headsFor.running paused
      rw [(session.pauseOrResume_of_running paused).2]
      constructor
      · intro _
        rw [effectiveTimeScale_of_queued_last rfl]
        have zero : Scalar.isFinite (0.0 : α) = true :=
          LawfulScalar.isFinite_zero
        exact ⟨(Value.same_real_iff zero zero).2 (Scalar.same_self zero),
          leads⟩
      · intro running
        cases running

/-- Operations that spare the time scale keep the session heading there. -/
theorem perform
    (headsFor : session.HeadsFor target turned)
    (valid : session.Valid)
    {operation : Operation α}
    (spares : operation.SparesTimeScale) :
    (session.perform operation).state.HeadsFor target
      (turned ∨ operation = .pauseOrResume) := by
  cases operation with
  | enqueue path value =>
      rw [perform_enqueue]
      rcases session.enqueue_cases path value with
        ⟨_, _, kept⟩ | ⟨control, accepted, named, accepts, _, left⟩
      · rw [kept]
        exact headsFor.of_unchanged rfl rfl rfl (by simp)
      · rw [left]
        have other : control.path ≠ Quantity.timeScale.path := by
          intro isScale
          obtain rfl : control = .quantity .timeScale :=
            Control.eq_of_path_eq isScale
          exact spares named.symm accepted accepts
        exact headsFor.of_unchanged rfl rfl
          (session.effectiveTimeScale_enqueued accepted other)
          (by simp)
  | discardChanges => exact spares.elim
  | pauseOrResume =>
      rw [perform_pauseOrResume]
      exact headsFor.pauseOrResume valid
  | markStale => exact headsFor.of_unchanged rfl rfl rfl (by simp)
  | fetchProgram =>
      rw [perform_fetchProgram]
      exact headsFor.of_unchanged rfl rfl rfl (by simp)
  | step elapsed view? =>
      obtain ⟨observer, program, lastView?, left⟩ :=
        step_scene valid.queue elapsed view?
      rw [perform_step, left]
      exact (headsFor.drained valid).of_unchanged rfl rfl rfl (by simp)

end HeadsFor

section Run

variable [LawfulScalar α] {session : Session α}

/-- A run that spares the time scale leads a session that runs to the time scale
that a pause leads it back to. -/
theorem headsFor_run
    (valid : session.Valid)
    (running : session.paused = false)
    (operations : List (Operation α)) :
    (∀ operation ∈ operations, operation.SparesTimeScale) →
      (session.run operations).HeadsFor session.effectiveTimeScale.restored
        (.pauseOrResume ∈ operations) := by
  refine session.run_induction
    (motive := fun before reached =>
      (∀ operation ∈ before, operation.SparesTimeScale) →
        reached.HeadsFor session.effectiveTimeScale.restored
          (.pauseOrResume ∈ before))
    ?nil ?concat operations
  case nil =>
    intro _
    constructor
    · intro paused
      cases running.symm.trans paused
    · intro _
      exact ⟨rfl, fun absent => nomatch absent⟩
  case concat =>
    intro before operation headsFor spare
    obtain ⟨earlier, last⟩ := List.forall_mem_append.1 spare
    have kept :=
      (headsFor earlier).perform (valid.run before)
        (last operation List.mem_cons_self)
    simpa [eq_comm] using kept

/-- Once a session that ran was paused or resumed, it heads for a time scale of
zero while paused, and else for the one before the pauses, or one for zero. The
next step puts it on the panel. -/
theorem effectiveTimeScale_of_pauses
    (stencilText : String)
    {panel : Panel α}
    (valid : panel.Valid)
    (settings : Settings α)
    (observer : Observer α)
    (before after : List (Operation α))
    (running :
      ((opening stencilText panel settings observer).run before).paused = false)
    (spare : ∀ operation ∈ after, operation.SparesTimeScale)
    (turned : .pauseOrResume ∈ after) :
    let session := (opening stencilText panel settings observer).run before
    let reached := session.run after
    let scale := session.effectiveTimeScale.restored
    ((reached.paused = true →
      reached.effectiveTimeScale.same (.real 0.0) = true) ∧
      (reached.paused = false → reached.effectiveTimeScale = scale)) ∧
    ∀ elapsed view?,
      let placed := (reached.step elapsed view?).state.panel.quantity .timeScale
      (reached.paused = true → placed.same (.real 0.0) = true) ∧
        (reached.paused = false → placed = scale) := by
  intro session reached scale
  have start : session.Valid :=
    (valid_opening stencilText valid settings observer).run before
  have headsFor : reached.HeadsFor scale (.pauseOrResume ∈ after) :=
    headsFor_run start running after spare
  refine ⟨?now, ?placed⟩
  case now =>
    exact ⟨fun paused => (headsFor.paused paused).1,
      fun runs => (headsFor.running runs).2 turned⟩
  intro elapsed view? placed
  have kept : reached.Valid := start.run after
  have drained := headsFor.drained kept
  have onPanel : placed = reached.drained.effectiveTimeScale :=
    timeScale_step kept.queue elapsed view?
  rw [onPanel]
  exact ⟨fun paused => (drained.paused paused).1,
    fun runs => (drained.running runs).2 turned⟩

/-- A time scale that was still queued at the pause is there again after it. -/
theorem effectiveTimeScale_of_pauses_stillQueued :
    let session := (opening "" Panel.still .initial .start).run
      [.enqueue "time_scale" (.real 0.25)]
    let after : List (Operation Float) :=
      [.pauseOrResume, .step (.real 0.5) (some straightView),
        .enqueue "planet.radius" (.real 0.9), .pauseOrResume]
    let reached := session.run after
    (Panel.still : Panel Float).Valid ∧ session.paused = false ∧
      (∀ operation ∈ after, operation.SparesTimeScale) ∧
      .pauseOrResume ∈ after ∧
      reached.paused = false ∧
      session.effectiveTimeScale.restored.same (.real 0.25) = true ∧
      reached.effectiveTimeScale = session.effectiveTimeScale.restored := by
  intro session after reached
  have running : session.paused = false := rfl
  have spare : ∀ operation ∈ after, operation.SparesTimeScale := by
    simp [after, Operation.SparesTimeScale, Quantity.path]
  have turned : .pauseOrResume ∈ after := List.mem_cons_self
  have resumed : reached.paused = false := by decide +kernel
  have scale :
      session.effectiveTimeScale.restored.same (.real 0.25) = true := by
    decide +kernel
  have settled :=
    effectiveTimeScale_of_pauses "" Panel.valid_still .initial .start
    [.enqueue "time_scale" (.real 0.25)] after running spare turned
  exact ⟨Panel.valid_still, running, spare, turned, resumed, scale,
    settled.1.2 resumed⟩

end Run

end Session

end BlackHoleScene
