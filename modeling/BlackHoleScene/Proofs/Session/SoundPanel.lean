import BlackHoleScene.Proofs.Scalar.Double
import BlackHoleScene.Proofs.Session.Pausing
import BlackHoleScene.Session.Access

/-!
# The panels that can be reached

Values are accepted when they are set, when they are queued, and once more when
they take effect. A value that was accepted is accepted again as it is, so
nothing that a host does with a session makes a valid session invalid: every
control of a panel that can be reached has a value of its kind within its bound,
the queue can always be drained, and the session can always be paused or
resumed: `Session.sound_of_accessedAll`.
-/

namespace BlackHoleScene

namespace Panel

/-- The tier is a known one and gives the step count, the flags are truth
values, and the quantities are finite machine doubles within their bounds. -/
structure Sound (panel : Panel Float) : Prop where
  quality :
    ∃ tier : Quality,
      panel.quality = .text tier.name ∧ panel.steps = .ok tier.steps
  flag : ∀ which : Flag, ∃ holds : Bool, panel.flag which = .truth holds
  timeScale :
    ∃ x : Float,
      panel.quantity .timeScale = .real x ∧ x.isFinite = true ∧ 0.0 ≤ x
  planetDistance :
    ∃ x : Float,
      panel.quantity .planetDistance = .real x ∧ x.isFinite = true ∧ 0.0 < x
  planetRadius :
    ∃ x : Float,
      panel.quantity .planetRadius = .real x ∧ x.isFinite = true ∧ 0.0 < x
  observerDistance :
    ∃ x : Float,
      panel.quantity .observerDistance = .real x ∧ x.isFinite = true ∧
        1.5 < x
  orbitalInclination :
    ∃ x : Float,
      panel.quantity .orbitalInclination = .real x ∧ x.isFinite = true

/-- A quantity that must not be at or below a bound is above it on a valid
panel. -/
theorem Valid.exists_above
    {panel : Panel Float}
    {which : Quantity}
    {bound : Float}
    (valid : panel.Valid)
    (finiteBound : bound.isFinite = true)
    (excluded : ∀ x : Float, which.violation? x = none → ¬x ≤ bound) :
    ∃ x : Float,
      panel.quantity which = .real x ∧ x.isFinite = true ∧ bound < x := by
  obtain ⟨x, held, finite, within⟩ := valid.quantity_eq which
  exact ⟨x, held, finite,
    Scalar.lt_of_not_le finiteBound finite (excluded x within)⟩

/-- A valid panel is sound. -/
theorem Valid.sound
    {panel : Panel Float}
    (valid : panel.Valid) :
    panel.Sound where
  quality := by
    obtain ⟨tier, shown⟩ := valid.quality_eq
    exact ⟨tier, shown, steps_of_tier shown⟩
  flag := valid.flag_eq
  timeScale := by
    obtain ⟨x, held, finite, within⟩ := valid.quantity_eq .timeScale
    have notBelow : ¬x < 0.0 := by simpa [Quantity.violation?] using within
    exact ⟨x, held, finite,
      Scalar.le_of_not_lt finite LawfulScalar.isFinite_zero notBelow⟩
  planetDistance := by
    apply valid.exists_above (by decide +kernel)
    simp [Quantity.violation?]
  planetRadius := by
    apply valid.exists_above (by decide +kernel)
    simp [Quantity.violation?]
  observerDistance := by
    change ∃ x : Float, _ ∧ _ ∧ Quantity.leastDistance < x
    apply valid.exists_above (by decide +kernel)
    simp [Quantity.violation?]
  orbitalInclination := by
    obtain ⟨x, held, finite, _⟩ := valid.quantity_eq .orbitalInclination
    exact ⟨x, held, finite⟩

end Panel

namespace Session

section Access

variable {α : Type} [Scalar α] {session : Session α}

/-- Setting a control keeps a session valid, also when the value is refused. -/
theorem Valid.set
    (valid : session.Valid)
    (path : String)
    (value : Value α) :
    (session.set path value).state.Valid := by
  unfold Session.set
  cases placed : session.panel.setAt path value with
  | error fault => exact valid
  | ok panel =>
      obtain ⟨control, _, set⟩ := bind_eq_ok_iff.1 placed
      obtain ⟨accepted, taken, rfl⟩ := map_eq_ok_iff.1 set
      exact ⟨valid.panel.assign (Control.valid_of_accept taken), valid.queue,
        valid.resumeScale⟩

/-- The changes of a valid queue take effect without a fault, and none is left.
-/
theorem applyChanges_eq (valid : session.queue.Valid) :
    session.applyChanges.result = .ok session.report ∧
      session.applyChanges.state =
        { session with
          panel := session.panel.assignAll session.effectiveChanges
          queue := {} } := by
  rw [applyChanges, ChangeQueue.drain_eq valid session.panel]
  exact ⟨rfl, rfl⟩

/-- Every access keeps a session valid. -/
theorem Valid.accessed
    (valid : session.Valid)
    (access : Access α) :
    (session.accessed access).Valid := by
  cases access with
  | operate operation => exact valid.perform operation
  | set path value => exact valid.set path value
  | applyChanges =>
      have placed := valid.panel.assignAll valid.effectiveChanges
      rw [Session.accessed, (applyChanges_eq valid.queue).2]
      exact ⟨placed, ChangeQueue.valid_empty, valid.resumeScale⟩

/-- Every series of accesses keeps a session valid. -/
theorem Valid.accessedAll
    (valid : session.Valid)
    (accesses : List (Access α)) :
    (session.accessedAll accesses).Valid := by
  induction accesses generalizing session with
  | nil => exact valid
  | cons access rest ih => exact ih (valid.accessed access)

end Access

/-- Whatever a host does with a session that began with the initial panel, its
panel is sound, its queue is accepted again as it is and drained without a
fault, and it can be paused or resumed. -/
theorem sound_of_accessedAll
    (stencilText : String)
    (settings : Settings Float)
    (observer : Observer Float)
    (accesses : List (Access Float)) :
    let reached :=
      (opening stencilText Panel.initial settings observer).accessedAll accesses
    reached.panel.Sound ∧
      (∀ change ∈ reached.queue.pending,
        change.control.accept change.value = .ok change.value) ∧
      (∃ report,
        reached.applyChanges.result = .ok report ∧
          reached.drain.result = .ok report) ∧
      reached.applyChanges.state.queue.pending = [] ∧
      reached.drain.state.queue.pending = [] ∧
      reached.pauseOrResume.result = .ok !reached.paused := by
  intro reached
  have start := valid_opening stencilText Panel.valid_initial settings observer
  have valid : reached.Valid := start.accessedAll accesses
  obtain ⟨applied, left⟩ := applyChanges_eq valid.queue
  obtain ⟨drained, leftToo⟩ := drain_eq valid.queue
  refine ⟨valid.panel.sound, valid.queue, ⟨_, applied, drained⟩, ?applied,
    ?drained, pauseOrResume_result valid⟩
  case applied => rw [left]
  case drained => rw [leftToo]; rfl

/-- A radius is refused, an integer is queued as a scalar, and the pause that
follows is still queued at the end. -/
theorem sound_of_accessedAll_pauseQueued :
    let reached := (opening "" Panel.initial .initial .start).accessedAll
      [.set "planet.radius" (.real (-1.0)),
        .operate (.enqueue "time_scale" (.number (.whole 3))), .applyChanges,
        .operate .pauseOrResume]
    reached.panel.Sound ∧ reached.queue.pending.length = 1 ∧
      (∀ change ∈ reached.queue.pending,
        change.control.accept change.value = .ok change.value) ∧
      reached.pauseOrResume.result = .ok false := by
  intro reached
  have queued : reached.queue.pending.length = 1 := by decide +kernel
  have paused : reached.paused = true := by decide +kernel
  obtain ⟨sound, accepted, _, _, _, resumes⟩ :=
    sound_of_accessedAll "" .initial .start
      [.set "planet.radius" (.real (-1.0)),
        .operate (.enqueue "time_scale" (.number (.whole 3))), .applyChanges,
        .operate .pauseOrResume]
  refine ⟨sound, queued, accepted, resumes.trans ?_⟩
  change Except.ok (!reached.paused) = Except.ok false
  rw [paused]
  rfl

end Session

end BlackHoleScene
