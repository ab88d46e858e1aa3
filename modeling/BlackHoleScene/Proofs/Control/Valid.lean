import BlackHoleScene.Control.Queue
import BlackHoleScene.Proofs.Outcome

/-!
# Valid values

A value is valid for a control when accepting it gives it back as it is. What a
control accepts is valid in this sense, so a queue only ever holds valid values,
and a panel that starts out valid stays so. Readers of a valid panel find what
they look for: a known tier, truth values, and scalars within their bounds.
-/

namespace BlackHoleScene

variable {α : Type} [Scalar α]

/-- The name under which a tier is found is its own. -/
theorem Quality.eq_name_of_ofName?
    {name : String}
    {quality : Quality}
    (found : Quality.ofName? name = some quality) :
    name = quality.name := by
  unfold Quality.ofName? at found
  have matched := List.find?_some found
  exact (eq_of_beq matched).symm

/-- A quantity accepts a finite scalar within its bound as it is. -/
theorem Quantity.accept_real
    {quantity : Quantity}
    {x : α}
    (finite : Scalar.isFinite x = true)
    (within : quantity.violation? x = none) :
    quantity.accept (.real x) = .ok x := by
  simp [Quantity.accept, Arithmetic.scalar, Number.toScalar?, bind, Except.bind,
    finite, within]

/-- Of a number other than a truth value, the scalar decides whether it is
accepted. -/
theorem Quantity.accept_number
    {which : Quantity}
    {number : Number α}
    {x : α}
    (kind : ∀ holds, number ≠ .truth holds)
    (scalar : number.toScalar? = some x) :
    which.accept (.number number) =
      if Scalar.isFinite x = true then
        (which.violation? x).elim (.ok x) fun cause => .error (.control cause)
      else .error (.control (.notFinite which (.number number))) := by
  have read : (Arithmetic.scalar number : Except (Fault α) α) = .ok x := by
    rw [Arithmetic.scalar, scalar]
  cases number with
  | truth holds => exact absurd rfl (kind holds)
  | whole n =>
      simp only [accept, read, bind, Except.bind]
      cases Scalar.isFinite x <;> cases which.violation? x <;> rfl
  | real y =>
      simp only [accept, read, bind, Except.bind]
      cases Scalar.isFinite x <;> cases which.violation? x <;> rfl

/-- What a quantity accepts is finite and within its bound. -/
theorem Quantity.finite_within_of_accept
    {quantity : Quantity}
    {value : Value α}
    {x : α}
    (accepted : quantity.accept value = .ok x) :
    Scalar.isFinite x = true ∧ quantity.violation? x = none := by
  unfold Quantity.accept at accepted
  split at accepted
  · cases accepted
  · obtain ⟨y, _, checked⟩ := bind_eq_ok_iff.1 accepted
    split at checked
    · cases checked
    · next finite =>
        split at checked
        · cases checked
        · next within =>
            cases checked
            exact ⟨by simpa using finite, within⟩
  · exact absurd accepted Control.refuse_ne_ok

namespace Control

/-- A control is known by its path. -/
theorem eq_of_path_eq
    {control other : Control}
    (same : control.path = other.path) :
    control = other := by
  have named := ofPath?_path control
  rw [same, ofPath?_path] at named
  exact (Option.some.inj named).symm

omit [Scalar α] in
/-- The control that a path names has that path. -/
theorem path_of_ofPath
    {path : String}
    {control : Control}
    (named : (ofPath path : Except (Fault α) Control) = .ok control) :
    control.path = path := by
  unfold ofPath ofPath? at named
  split at named
  · next found =>
      cases named
      have matched := List.find?_some found
      exact eq_of_beq matched
  · cases named

/-- A quantity accepts a scalar only as it is. -/
theorem eq_of_accept_real
    {which : Quantity}
    {x : α}
    {accepted : Value α}
    (taken : (quantity which).accept (.real x) = .ok accepted) :
    accepted = .real x := by
  obtain ⟨y, found, rfl⟩ := map_eq_ok_iff.1 taken
  obtain ⟨z, read, checked⟩ := bind_eq_ok_iff.1 found
  cases read
  split at checked
  · cases checked
  · split at checked
    · cases checked
    · cases checked
      rfl

/-- Accepting the value for the control gives it back as it is. -/
def Valid (control : Control) (value : Value α) : Prop :=
  control.accept value = .ok value

/-- Values valid for the tier are the names of tiers. -/
theorem valid_quality_iff {value : Value α} :
    quality.Valid value ↔ ∃ tier : Quality, value = .text tier.name := by
  constructor
  · intro valid
    cases value with
    | text name =>
        cases found : Quality.ofName? name with
        | none =>
            obtain ⟨count, counted, _⟩ := map_eq_ok_iff.1 valid
            simp [Quality.stepsOf, Quality.ofValue?, found] at counted
        | some tier =>
            exact ⟨tier, by rw [Quality.eq_name_of_ofName? found]⟩
    | none => exact absurd valid refuse_ne_ok
    | number x => exact absurd valid refuse_ne_ok
    | list items => exact absurd valid refuse_ne_ok
  · rintro ⟨tier, rfl⟩
    simp [Valid, accept, Quality.stepsOf, Quality.ofValue?, Except.map]

/-- Values valid for a flag are the truth values. -/
theorem valid_flag_iff
    {which : Flag}
    {value : Value α} :
    (flag which).Valid value ↔ ∃ holds : Bool, value = .truth holds := by
  constructor
  · intro valid
    unfold Valid accept at valid
    dsimp only at valid
    split at valid
    · exact ⟨_, rfl⟩
    · exact absurd valid refuse_ne_ok
  · rintro ⟨holds, rfl⟩
    rfl

/-- Values valid for a quantity are the finite scalars within its bound. -/
theorem valid_quantity_iff
    {which : Quantity}
    {value : Value α} :
    (quantity which).Valid value ↔
      ∃ x : α,
        value = .real x ∧ Scalar.isFinite x = true ∧
          which.violation? x = none := by
  constructor
  · intro valid
    obtain ⟨x, accepted, held⟩ := map_eq_ok_iff.1 valid
    exact ⟨x, held.symm, Quantity.finite_within_of_accept accepted⟩
  · rintro ⟨x, rfl, finite, within⟩
    simp [Valid, accept, Quantity.accept_real finite within, Except.map]

/-- What a control accepts is valid for it. -/
theorem valid_of_accept
    {control : Control}
    {value accepted : Value α}
    (found : control.accept value = .ok accepted) :
    control.Valid accepted := by
  cases control with
  | quality =>
      cases value with
      | text name =>
          obtain ⟨count, _, rfl⟩ := map_eq_ok_iff.1 found
          exact found
      | none => exact absurd found refuse_ne_ok
      | number x => exact absurd found refuse_ne_ok
      | list items => exact absurd found refuse_ne_ok
  | flag which =>
      unfold accept at found
      dsimp only at found
      split at found
      · cases found
        rfl
      · exact absurd found refuse_ne_ok
  | quantity which =>
      obtain ⟨x, read, rfl⟩ := map_eq_ok_iff.1 found
      exact valid_quantity_iff.2
        ⟨x, rfl, Quantity.finite_within_of_accept read⟩

end Control

/-- The change gives its control a valid value. -/
def Change.Valid (change : Change α) : Prop :=
  change.control.Valid change.value

/-- All queued changes are valid. -/
def ChangeQueue.Valid (queue : ChangeQueue α) : Prop :=
  ∀ change ∈ queue.pending, change.Valid

theorem ChangeQueue.valid_empty : ({} : ChangeQueue α).Valid := by
  intro change queued
  cases queued

/-- Queueing keeps a queue valid. -/
theorem ChangeQueue.Valid.enqueue
    {queue queued : ChangeQueue α}
    {path : String}
    {value : Value α}
    (valid : queue.Valid)
    (accepted : queue.enqueue path value = .ok queued) :
    queued.Valid := by
  obtain ⟨control, _, found⟩ := bind_eq_ok_iff.1 accepted
  obtain ⟨held, taken, added⟩ := bind_eq_ok_iff.1 found
  cases added
  intro change member
  rcases List.mem_append.1 member with old | new
  · exact valid change old
  · rw [List.mem_singleton.1 new]
    exact Control.valid_of_accept taken

/-- The value queued last for a control is valid for it. -/
theorem ChangeQueue.Valid.lastValue?
    {queue : ChangeQueue α}
    {control : Control}
    {value : Value α}
    (valid : queue.Valid)
    (last : queue.lastValue? control.path = some value) :
    control.Valid value := by
  obtain ⟨change, found, rfl⟩ := Option.map_eq_some_iff.1 last
  have queued : change ∈ queue.pending :=
    List.mem_reverse.1 (List.mem_of_find?_eq_some found)
  have same : change.control = control :=
    Control.eq_of_path_eq (by simpa using List.find?_some found)
  exact same ▸ valid change queued

namespace Panel

/-- Every control has a valid value. -/
def Valid (panel : Panel α) : Prop :=
  ∀ control : Control, control.Valid (panel.get control)

/-- Every quantity is held as a scalar, whether or not a control would accept
it. -/
def Measured (panel : Panel α) : Prop :=
  ∀ which, ∃ x : α, panel.quantity which = .real x

/-- The panel names a tier, and the distance and the radius of the planet are
numbers: enough to show a frame, whatever the other controls hold. -/
structure Showable (panel : Panel α) : Prop where
  steps : ∃ count, panel.steps = .ok count
  planetDistance : ∃ x, panel.scalar .planetDistance = .ok x
  planetRadius : ∃ x, panel.scalar .planetRadius = .ok x

omit [Scalar α] in
/-- A known tier has a step count. -/
theorem steps_of_tier
    {panel : Panel α}
    {tier : Quality}
    (shown : panel.quality = .text tier.name) :
    panel.steps = .ok tier.steps := by
  simp [Panel.steps, shown, Quality.stepsOf, Quality.ofValue?]

namespace Valid

variable {panel : Panel α}

/-- Placing a valid value keeps a panel valid. -/
theorem assign
    (valid : panel.Valid)
    {control : Control}
    {value : Value α}
    (fits : control.Valid value) :
    (panel.assign control value).Valid := by
  intro other
  by_cases same : other = control
  · subst same
    simpa using fits
  · rw [get_assign_of_ne panel value same]
    exact valid other

/-- A valid panel shows a known tier. -/
theorem quality_eq (valid : panel.Valid) :
    ∃ tier : Quality, panel.quality = .text tier.name :=
  Control.valid_quality_iff.1 (valid .quality)

/-- The flags of a valid panel are truth values. -/
theorem flag_eq (valid : panel.Valid) (which : Flag) :
    ∃ holds : Bool, panel.flag which = .truth holds :=
  Control.valid_flag_iff.1 (valid (.flag which))

/-- The quantities of a valid panel are finite scalars within their bounds. -/
theorem quantity_eq (valid : panel.Valid) (which : Quantity) :
    ∃ x : α,
      panel.quantity which = .real x ∧ Scalar.isFinite x = true ∧
        which.violation? x = none :=
  Control.valid_quantity_iff.1 (valid (.quantity which))

/-- A valid panel has a step count. -/
theorem steps_eq (valid : panel.Valid) :
    ∃ count, panel.steps = .ok count := by
  obtain ⟨tier, shown⟩ := valid.quality_eq
  exact ⟨tier.steps, steps_of_tier shown⟩

/-- Every quantity of a valid panel can be read as a scalar. -/
theorem scalar_eq (valid : panel.Valid) (which : Quantity) :
    ∃ x : α,
      panel.quantity which = .real x ∧ panel.scalar which = .ok x ∧
        which.violation? x = none := by
  obtain ⟨x, held, _, within⟩ := valid.quantity_eq which
  refine ⟨x, held, ?_, within⟩
  rw [scalar, held]
  rfl

end Valid

/-- The quantities of a valid panel are scalars. -/
theorem Valid.measured
    {panel : Panel α}
    (valid : panel.Valid) :
    panel.Measured := by
  intro which
  obtain ⟨x, held, _⟩ := valid.quantity_eq which
  exact ⟨x, held⟩

/-- A valid panel can be shown. -/
theorem Valid.showable
    {panel : Panel α}
    (valid : panel.Valid) :
    panel.Showable where
  steps := valid.steps_eq
  planetDistance := by
    obtain ⟨x, _, read, _⟩ := valid.scalar_eq .planetDistance
    exact ⟨x, read⟩
  planetRadius := by
    obtain ⟨x, _, read, _⟩ := valid.scalar_eq .planetRadius
    exact ⟨x, read⟩

section Assign

variable {panel : Panel α} {control : Control} {value : Value α}

/-- Placing a valid value leaves a panel with a step count. -/
theorem exists_steps_assign
    (fits : control.Valid value)
    (counted : ∃ count, panel.steps = .ok count) :
    ∃ count, (panel.assign control value).steps = .ok count := by
  cases control with
  | quality =>
      obtain ⟨tier, rfl⟩ := Control.valid_quality_iff.1 fits
      exact ⟨tier.steps, steps_of_tier rfl⟩
  | flag which => exact counted
  | quantity which => exact counted

/-- Placing a valid value leaves a quantity a number. -/
theorem exists_scalar_assign
    {which : Quantity}
    (fits : control.Valid value)
    (read : ∃ x, panel.scalar which = .ok x) :
    ∃ x, (panel.assign control value).scalar which = .ok x := by
  by_cases same : control = .quantity which
  · subst same
    obtain ⟨x, rfl, _⟩ := Control.valid_quantity_iff.1 fits
    exact ⟨x, by simp [scalar, assign]; rfl⟩
  · have kept :
        (panel.assign control value).quantity which = panel.quantity which :=
      panel.get_assign_of_ne value (Ne.symm same)
    rwa [scalar, kept]

/-- Placing a valid value keeps a panel showable. -/
theorem Showable.assign
    (showable : panel.Showable)
    (fits : control.Valid value) :
    (panel.assign control value).Showable where
  steps := exists_steps_assign fits showable.steps
  planetDistance := exists_scalar_assign fits showable.planetDistance
  planetRadius := exists_scalar_assign fits showable.planetRadius

end Assign

/-- Every control starts with a valid value. -/
theorem valid_initial : (initial : Panel Float).Valid := by
  intro control
  cases control with
  | quality => rfl
  | flag which => rfl
  | quantity which => cases which <;> rfl

/-- The panel at the start, with the observer off its orbit. -/
def resting : Panel α := initial.assign (.flag .observerMotion) (.truth false)

theorem valid_resting : (resting : Panel Float).Valid :=
  valid_initial.assign rfl

/-- The panel at the start, with nothing that moves by itself. -/
def still : Panel α := resting.assign (.flag .planetEnabled) (.truth false)

theorem valid_still : (still : Panel Float).Valid := valid_resting.assign rfl

/-- A valid value is placed on a panel as it is. -/
theorem set_eq_assign
    (panel : Panel α)
    {control : Control}
    {value : Value α}
    (fits : control.Valid value) :
    panel.set control value = .ok (panel.assign control value) := by
  have accepted : control.accept value = .ok value := fits
  rw [set, accepted]
  rfl

end Panel

end BlackHoleScene
