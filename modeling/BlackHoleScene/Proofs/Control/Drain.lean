import BlackHoleScene.Proofs.Control.Valid

/-!
# What a drain does

Of the queued changes, those take effect that find another value on the panel
when their turn comes. A drain of valid changes never stops: it places exactly
these values on the panel, in order, reports their controls, and leaves the
queue empty. So a control ends up with the value that took effect last, or keeps
the one it had.
-/

namespace BlackHoleScene

variable {α : Type}

namespace Panel

/-- Place the values of changes on a panel, one after the other. -/
def assignAll (panel : Panel α) (changes : List (Change α)) : Panel α :=
  changes.foldl
    (fun reached change => reached.assign change.control change.value) panel

@[simp] theorem assignAll_nil (panel : Panel α) : panel.assignAll [] = panel :=
  rfl

@[simp] theorem assignAll_cons
    (panel : Panel α)
    (change : Change α)
    (rest : List (Change α)) :
    panel.assignAll (change :: rest) =
      (panel.assign change.control change.value).assignAll rest := rfl

theorem assignAll_append
    (panel : Panel α)
    (earlier later : List (Change α)) :
    panel.assignAll (earlier ++ later) =
      (panel.assignAll earlier).assignAll later :=
  List.foldl_append

/-- A control that no change names keeps its value. -/
theorem get_assignAll_of_unnamed
    (panel : Panel α)
    {changes : List (Change α)}
    {control : Control}
    (unnamed : ∀ change ∈ changes, change.control ≠ control) :
    (panel.assignAll changes).get control = panel.get control := by
  induction changes generalizing panel with
  | nil => rfl
  | cons change rest ih =>
      have others : ∀ other ∈ rest, other.control ≠ control :=
        fun other member => unnamed other (List.mem_cons_of_mem change member)
      have different : control ≠ change.control :=
        (unnamed change List.mem_cons_self).symm
      rw [assignAll_cons, ih _ others,
        get_assign_of_ne panel change.value different]

end Panel

namespace ChangeQueue

/-- The first change counts when none after it is to the same path. -/
theorem lastValue?_cons
    (change : Change α)
    (rest : List (Change α))
    (path : String) :
    (mk (change :: rest)).lastValue? path =
      ((mk rest).lastValue? path).or
        (if change.control.path = path then some change.value else none) := by
  simp only [lastValue?, List.reverse_cons, List.find?_append]
  cases rest.reverse.find? fun other => other.control.path == path with
  | some later => rfl
  | none => by_cases named : change.control.path = path <;> simp [named]

/-- The change queued last counts if it is to the path. -/
theorem lastValue?_concat
    (earlier : List (Change α))
    (change : Change α)
    (path : String) :
    (mk (earlier ++ [change])).lastValue? path =
      if change.control.path = path then some change.value
      else (mk earlier).lastValue? path := by
  by_cases named : change.control.path = path <;> simp [lastValue?, named]

end ChangeQueue

namespace Panel

/-- A control ends up with the value that was placed on it last. -/
theorem get_assignAll
    (panel : Panel α)
    (changes : List (Change α))
    (control : Control) :
    (panel.assignAll changes).get control =
      ((ChangeQueue.mk changes).lastValue? control.path).getD
        (panel.get control) := by
  induction changes generalizing panel with
  | nil => rfl
  | cons change rest ih =>
      rw [assignAll_cons, ih, ChangeQueue.lastValue?_cons]
      cases (ChangeQueue.mk rest).lastValue? control.path with
      | some later => rfl
      | none =>
          by_cases same : change.control = control
          · subst same
            simp
          · have otherPath : ¬change.control.path = control.path :=
              fun equal => same (Control.eq_of_path_eq equal)
            simp [otherPath, get_assign_of_ne panel change.value (Ne.symm same)]

/-- Two panels agree on all controls that decide the program text. -/
def AgreeOnProgram (panel other : Panel α) : Prop :=
  ∀ control : Control,
    control.decidesProgram = true → panel.get control = other.get control

/-- Changes of quantities alone do not touch what decides the program text. -/
theorem agreeOnProgram_assignAll
    (panel : Panel α)
    {changes : List (Change α)}
    (quantities :
      ∀ change ∈ changes, change.control.decidesProgram = false) :
    (panel.assignAll changes).AgreeOnProgram panel := by
  intro control decides
  apply get_assignAll_of_unnamed
  rintro change member rfl
  simp [quantities change member] at decides

end Panel

namespace ChangeReport

/-- Record the controls of changes, in order. -/
def recordAll
    (report : ChangeReport)
    (changes : List (Change α)) : ChangeReport :=
  changes.foldl (fun recorded change => recorded.record change.control) report

theorem mem_record
    {report : ChangeReport}
    {control other : Control} :
    other ∈ (report.record control).controls ↔
      other ∈ report.controls ∨ other = control := by
  unfold record
  split
  · next known =>
      constructor
      · exact Or.inl
      · rintro (old | rfl)
        · exact old
        · exact known
  · simp

/-- The recorded controls are those of the changes. -/
theorem mem_recordAll
    {report : ChangeReport}
    {changes : List (Change α)}
    {control : Control} :
    control ∈ (report.recordAll changes).controls ↔
      control ∈ report.controls ∨
        ∃ change ∈ changes, change.control = control := by
  induction changes generalizing report with
  | nil => simp [recordAll]
  | cons change rest ih =>
      have unfolded : report.recordAll (change :: rest) =
          (report.record change.control).recordAll rest := rfl
      rw [unfolded, ih, mem_record, eq_comm (a := control)]
      simp only [List.mem_cons, exists_eq_or_imp, or_assoc]

/-- A report calls for a new program text when a change was to a control that
decides it. -/
theorem needsCompile_recordAll_eq_false_iff {changes : List (Change α)} :
    (recordAll {} changes).needsCompile = false ↔
      ∀ change ∈ changes, change.control.decidesProgram = false := by
  simp only [needsCompile, List.any_eq_false, mem_recordAll]
  constructor
  · intro none change member
    simpa using none change.control (Or.inr ⟨change, member, rfl⟩)
  · rintro none control (absent | ⟨change, member, rfl⟩)
    · cases absent
    · simp [none change member]

/-- A report is effective when there was a change. -/
theorem isEffective_recordAll_eq_false_iff {changes : List (Change α)} :
    (recordAll {} changes).isEffective = false ↔ changes = [] := by
  simp only [isEffective, Bool.not_eq_false', List.isEmpty_iff]
  constructor
  · intro empty
    cases changes with
    | nil => rfl
    | cons change rest =>
        have recorded :
            change.control ∈ (recordAll {} (change :: rest)).controls :=
          mem_recordAll.2 (Or.inr ⟨change, List.mem_cons_self, rfl⟩)
        rw [empty] at recorded
        cases recorded
  · rintro rfl
    rfl

end ChangeReport

namespace ChangeQueue

variable [Scalar α]

/-- The changes that take effect: those that find another value on the panel
when their turn comes. -/
def effective (panel : Panel α) : List (Change α) → List (Change α)
  | [] => []
  | change :: rest =>
      if (panel.get change.control).same change.value then effective panel rest
      else change :: effective (panel.assign change.control change.value) rest

theorem mem_of_mem_effective
    {panel : Panel α}
    {changes : List (Change α)}
    {change : Change α}
    (member : change ∈ effective panel changes) :
    change ∈ changes := by
  induction changes generalizing panel with
  | nil => exact member
  | cons first rest ih =>
      unfold effective at member
      split at member
      · exact List.mem_cons_of_mem first (ih member)
      · rcases List.mem_cons.1 member with rfl | later
        · exact List.mem_cons_self
        · exact List.mem_cons_of_mem first (ih later)

/-- After the effective changes, a control has the value queued last for it, or
one that counts as the same. If none is queued for it, it has the value that it
had. -/
theorem get_assignAll_effective
    (panel : Panel α)
    (changes : List (Change α))
    (control : Control) :
    match (mk changes).lastValue? control.path with
    | none =>
        (panel.assignAll (effective panel changes)).get control =
          panel.get control
    | some value =>
        (panel.assignAll (effective panel changes)).get control = value ∨
          ((panel.assignAll (effective panel changes)).get control).same value =
            true := by
  induction changes generalizing panel with
  | nil => rfl
  | cons change rest ih =>
      rw [lastValue?_cons]
      by_cases same : (panel.get change.control).same change.value = true
      · have skipped :
            effective panel (change :: rest) = effective panel rest :=
          if_pos same
        have kept := ih panel
        rw [skipped]
        cases later : (mk rest).lastValue? control.path with
        | some value => simpa [later] using kept
        | none =>
            simp only [later] at kept
            by_cases named : change.control.path = control.path
            · obtain rfl : change.control = control :=
                Control.eq_of_path_eq named
              simpa [kept] using .inr same
            · simpa [named] using kept
      · have placed : effective panel (change :: rest) =
            change ::
              effective (panel.assign change.control change.value) rest :=
                if_neg same
        have kept := ih (panel.assign change.control change.value)
        rw [placed, Panel.assignAll_cons]
        cases later : (mk rest).lastValue? control.path with
        | some value => simpa [later] using kept
        | none =>
            simp only [later] at kept
            by_cases named : change.control.path = control.path
            · obtain rfl : change.control = control :=
                Control.eq_of_path_eq named
              simp [kept]
            · have different : control ≠ change.control := by
                rintro rfl
                exact named rfl
              simpa [named,
                Panel.get_assign_of_ne panel change.value different] using kept

/-- Valid changes are applied one after the other without a fault. -/
theorem applyAll_eq
    (panel : Panel α)
    (report : ChangeReport)
    {changes : List (Change α)}
    (valid : ∀ change ∈ changes, change.Valid) :
    applyAll panel report changes =
      { result := .ok (report.recordAll (effective panel changes))
        state := (panel.assignAll (effective panel changes), {})
        log := (effective panel changes).map fun change =>
          .controlChanged change.control change.value } := by
  induction changes generalizing panel report with
  | nil => rfl
  | cons change rest ih =>
      have fits : change.Valid := valid change List.mem_cons_self
      have others : ∀ other ∈ rest, other.Valid :=
        fun other member => valid other (List.mem_cons_of_mem change member)
      unfold applyAll effective
      split
      · exact ih panel report others
      · rw [Panel.set_eq_assign panel fits]
        simp only [ih _ _ others]
        rfl

/-- A drain of a valid queue lets the effective changes take place and leaves
nothing queued. -/
theorem drain_eq
    {queue : ChangeQueue α}
    (valid : queue.Valid)
    (panel : Panel α) :
    queue.drain panel =
      { result :=
        .ok (ChangeReport.recordAll {} (effective panel queue.pending))
        state := (panel.assignAll (effective panel queue.pending), {})
        log := (effective panel queue.pending).map fun change =>
          .controlChanged change.control change.value } :=
  applyAll_eq panel {} valid

end ChangeQueue

namespace Panel

variable [Scalar α] {panel : Panel α} {changes : List (Change α)}

/-- What every valid value keeps when it is placed on a panel, valid changes
keep. -/
theorem assignAll_induction
    {motive : Panel α → Prop}
    (assign :
      ∀ (reached : Panel α) (control : Control) (value : Value α),
        control.Valid value → motive reached →
          motive (reached.assign control value))
    (fits : ∀ change ∈ changes, change.Valid)
    (start : motive panel) :
    motive (panel.assignAll changes) := by
  induction changes generalizing panel with
  | nil => exact start
  | cons change rest ih =>
      have placed := assign panel _ _ (fits change List.mem_cons_self) start
      exact ih
        (fun other member => fits other (List.mem_cons_of_mem change member))
        placed

/-- Valid changes keep a panel valid. -/
theorem Valid.assignAll
    (valid : panel.Valid)
    (fits : ∀ change ∈ changes, change.Valid) :
    (panel.assignAll changes).Valid :=
  assignAll_induction (fun _ _ _ fit reached => reached.assign fit) fits valid

/-- Valid changes keep a panel showable. -/
theorem Showable.assignAll
    (showable : panel.Showable)
    (fits : ∀ change ∈ changes, change.Valid) :
    (panel.assignAll changes).Showable :=
  assignAll_induction
    (fun _ _ _ fit reached => reached.assign fit) fits showable

end Panel

end BlackHoleScene
