import BlackHoleScene.Proofs.Control.Drain
import BlackHoleScene.Proofs.Scalar.Double
import Mathlib.Data.List.Induction

/-!
# What a drain reports

A drain compares each change with the value that its control has by then, so a
control may be changed, changed back, and changed again. What the drain reports
can be told from the panel before it all the same: it lists the controls that
some change would give another value than they had, each once, in the order of
the first such change. For until a control is listed it has the value that it
had, and once it is listed, it stays so: `ChangeQueue.drain_ofInputs`.
-/

namespace BlackHoleScene

variable {α : Type} [Scalar α]

/-- The change gives its control another value than the panel. -/
def Change.differsFrom (change : Change α) (panel : Panel α) : Bool :=
  !(panel.get change.control).same change.value

namespace ChangeQueue

/-- Queue the values of inputs, one after the other, leaving out those that are
refused. -/
def enqueueAll
    (queue : ChangeQueue α)
    (inputs : List (String × Value α)) : ChangeQueue α :=
  inputs.foldl
    (fun reached (path, value) =>
      (reached.enqueue path value).toOption.getD reached) queue

/-- The queue that inputs fill. -/
def ofInputs (inputs : List (String × Value α)) : ChangeQueue α :=
  enqueueAll {} inputs

/-- Inputs keep a queue valid. -/
theorem Valid.enqueueAll
    {queue : ChangeQueue α}
    (valid : queue.Valid)
    (inputs : List (String × Value α)) :
    (queue.enqueueAll inputs).Valid := by
  induction inputs generalizing queue with
  | nil => exact valid
  | cons input rest ih =>
      obtain ⟨path, value⟩ := input
      apply ih
      dsimp only
      cases queued : queue.enqueue path value with
      | error fault => exact valid
      | ok reached => exact valid.enqueue queued

/-- What inputs queue is valid. -/
theorem valid_ofInputs (inputs : List (String × Value α)) :
    (ofInputs inputs).Valid :=
  valid_empty.enqueueAll inputs

/-- The place of the first change to a control that gives it another value than
the panel. -/
def firstDiffering
    (panel : Panel α)
    (changes : List (Change α))
    (control : Control) : Nat :=
  changes.findIdx fun change =>
    decide (change.control = control) && change.differsFrom panel

/-- The first change is found if there is one. -/
theorem firstDiffering_lt_iff
    {panel : Panel α}
    {changes : List (Change α)}
    {control : Control} :
    firstDiffering panel changes control < changes.length ↔
      ∃ change ∈ changes,
        change.control = control ∧ change.differsFrom panel = true := by
  simp [firstDiffering, List.findIdx_lt_length]

/-- Later changes leave it where it is. -/
theorem firstDiffering_append
    {panel : Panel α}
    {changes : List (Change α)}
    {control : Control}
    (found : firstDiffering panel changes control < changes.length)
    (later : List (Change α)) :
    firstDiffering panel (changes ++ later) control =
      firstDiffering panel changes control := by
  rw [firstDiffering, List.findIdx_append]
  exact if_pos found

/-- Without one, later changes can only give one after these. -/
theorem length_le_firstDiffering_append
    {panel : Panel α}
    {changes : List (Change α)}
    {control : Control}
    (unfound : ¬firstDiffering panel changes control < changes.length)
    (later : List (Change α)) :
    changes.length ≤ firstDiffering panel (changes ++ later) control := by
  rw [firstDiffering, List.findIdx_append]
  exact (Nat.le_add_left _ _).trans_eq (if_neg unfound).symm

/-- The first change takes effect if it differs from the panel. -/
theorem effective_cons
    (panel : Panel α)
    (change : Change α)
    (rest : List (Change α)) :
    effective panel (change :: rest) =
      if change.differsFrom panel then
        change :: effective (panel.assign change.control change.value) rest
      else effective panel rest := by
  rw [effective, Change.differsFrom]
  cases (panel.get change.control).same change.value <;> rfl

end ChangeQueue

namespace ChangeReport

/-- A control is recorded only once. -/
theorem record_of_mem
    {report : ChangeReport}
    {control : Control}
    (known : control ∈ report.controls) :
    report.record control = report := if_pos known

omit [Scalar α] in
theorem recordAll_concat
    (report : ChangeReport)
    (changes : List (Change α))
    (last : Change α) :
    report.recordAll (changes ++ [last]) =
      (report.recordAll changes).record last.control :=
  List.foldl_concat ..

/-- As long as the controls that are not recorded have the values that they had,
the changes that take effect are recorded as those are that differ from these
values. -/
theorem recordAll_effective
    {report : ChangeReport}
    {panel before : Panel α}
    (changes : List (Change α))
    (kept :
      ∀ control,
        control ∉ report.controls →
          panel.get control = before.get control) :
    report.recordAll (ChangeQueue.effective panel changes) =
      report.recordAll (changes.filter (·.differsFrom before)) := by
  induction changes generalizing report panel with
  | nil => rfl
  | cons change rest ih =>
      have recorded
          (disagree : change.differsFrom panel ≠ change.differsFrom before) :
          report.record change.control = report := by
        apply record_of_mem
        by_contra unknown
        exact disagree
          (by rw [Change.differsFrom, Change.differsFrom, kept _ unknown])
      have unfolded (others : List (Change α)) :
          report.recordAll (change :: others) =
            (report.record change.control).recordAll others :=
        rfl
      rw [ChangeQueue.effective_cons, List.filter_cons]
      cases running : change.differsFrom panel with
      | true =>
          have keptToo :
              ∀ control,
                control ∉ (report.record change.control).controls →
                  (panel.assign change.control change.value).get control =
                    before.get control := by
            intro control unknown
            rw [mem_record, not_or] at unknown
            rw [Panel.get_assign_of_ne panel change.value unknown.2,
              kept control unknown.1]
          rw [if_pos rfl, unfolded, ih keptToo]
          cases original : change.differsFrom before with
          | true => rfl
          | false =>
              rw [recorded (by simp [running, original]),
                if_neg Bool.false_ne_true]
      | false =>
          rw [if_neg Bool.false_ne_true, ih kept]
          cases original : change.differsFrom before with
          | true =>
              rw [if_pos rfl, unfolded, recorded (by simp [running, original])]
          | false => rfl

/-- The report lists the controls that some change would give another value than
the panel, each once, in the order of the first such change. -/
structure Lists
    (report : ChangeReport)
    (panel : Panel α)
    (changes : List (Change α)) : Prop where
  nodup : report.controls.Nodup
  mem_iff :
    ∀ control, control ∈ report.controls ↔
      ∃ change ∈ changes,
        change.control = control ∧ change.differsFrom panel = true
  ordered :
    report.controls.Pairwise fun first second =>
      ChangeQueue.firstDiffering panel changes first <
        ChangeQueue.firstDiffering panel changes second

/-- The controls of the changes that differ from a panel are recorded. -/
theorem mem_recordAll_filter
    {panel : Panel α}
    {changes : List (Change α)}
    {control : Control} :
    control ∈
      (recordAll {} (changes.filter (·.differsFrom panel))).controls ↔
      ∃ change ∈ changes,
        change.control = control ∧ change.differsFrom panel = true := by
  rw [mem_recordAll]
  constructor
  · rintro (absent | ⟨change, kept, rfl⟩)
    · cases absent
    · obtain ⟨member, differs⟩ := List.mem_filter.1 kept
      exact ⟨change, member, rfl, differs⟩
  · rintro ⟨change, member, rfl, differs⟩
    exact .inr ⟨change, List.mem_filter.2 ⟨member, differs⟩, rfl⟩

/-- They are recorded in the order of the first of these changes to each. -/
theorem pairwise_recordAll_filter
    (panel : Panel α)
    (changes : List (Change α)) :
    (recordAll {} (changes.filter (·.differsFrom panel))).controls.Pairwise
      fun first second =>
        ChangeQueue.firstDiffering panel changes first <
          ChangeQueue.firstDiffering panel changes second := by
  induction changes using List.reverseRecOn with
  | nil => exact List.Pairwise.nil
  | append_singleton changes last ih =>
      let report : ChangeReport :=
        recordAll {} (changes.filter (·.differsFrom panel))
      have found (control : Control) (listed : control ∈ report.controls) :
          ChangeQueue.firstDiffering panel changes control < changes.length :=
        ChangeQueue.firstDiffering_lt_iff.2 (mem_recordAll_filter.1 listed)
      have earlier : report.controls.Pairwise fun first second =>
          ChangeQueue.firstDiffering panel (changes ++ [last]) first <
            ChangeQueue.firstDiffering panel (changes ++ [last]) second := by
        refine ih.imp_of_mem ?_
        intro first second firstListed secondListed before
        rw [ChangeQueue.firstDiffering_append (found first firstListed),
          ChangeQueue.firstDiffering_append (found second secondListed)]
        exact before
      rw [List.filter_append, List.filter_singleton]
      cases differs : last.differsFrom panel with
      | false => simpa using earlier
      | true =>
          rw [cond_true, recordAll_concat, record]
          split
          · exact earlier
          · next unknown =>
              refine List.pairwise_append.2
                ⟨earlier, List.pairwise_singleton _ _, ?_⟩
              intro control listed other isLast
              obtain rfl : other = last.control := List.mem_singleton.1 isLast
              rw [ChangeQueue.firstDiffering_append (found control listed)]
              have unfound :
                  ¬ChangeQueue.firstDiffering panel changes last.control <
                    changes.length := by
                rwa [ChangeQueue.firstDiffering_lt_iff,
                  ← mem_recordAll_filter]
              exact (found control listed).trans_le
                (ChangeQueue.length_le_firstDiffering_append unfound [last])

/-- So the record of these changes lists them. -/
theorem lists_recordAll_filter
    (panel : Panel α)
    (changes : List (Change α)) :
    (recordAll {} (changes.filter (·.differsFrom panel))).Lists panel
      changes where
  nodup := (pairwise_recordAll_filter panel changes).imp fun before => by
    rintro rfl
    exact lt_irrefl _ before
  mem_iff := fun _ => mem_recordAll_filter
  ordered := pairwise_recordAll_filter panel changes

end ChangeReport

/-- Every control would accept the value that it has. -/
def Panel.Acceptable (panel : Panel α) : Prop :=
  ∀ control : Control, ∃ accepted,
    control.accept (panel.get control) = .ok accepted

/-- A valid panel is acceptable. -/
theorem Panel.Valid.acceptable
    {panel : Panel α}
    (valid : panel.Valid) :
    panel.Acceptable :=
  fun control => ⟨_, valid control⟩

namespace ChangeQueue

variable {queue : ChangeQueue α} {panel : Panel α}

/-- A drain leaves a control alone for which nothing is queued. -/
theorem get_drain_of_unqueued
    (valid : queue.Valid)
    {control : Control}
    (unqueued : queue.lastValue? control.path = none) :
    (queue.drain panel).state.1.get control = panel.get control := by
  have agrees := get_assignAll_effective panel queue.pending control
  rw [drain_eq valid panel]
  simpa only [unqueued] using agrees

/-- A drain of a valid queue reports the controls that some change would give
another value than they had, and leaves the others alone. -/
theorem exists_report_of_drain
    (valid : queue.Valid)
    (panel : Panel α) :
    ∃ report,
      (queue.drain panel).result = .ok report ∧
      report.Lists panel queue.pending ∧
      ∀ control, control ∉ report.controls →
        (queue.drain panel).state.1.get control = panel.get control := by
  rw [drain_eq valid panel]
  refine ⟨_, rfl, ?lists, ?others⟩
  case lists =>
    rw [ChangeReport.recordAll_effective queue.pending fun _ _ => rfl]
    exact ChangeReport.lists_recordAll_filter panel queue.pending
  case others =>
    intro control unlisted
    apply Panel.get_assignAll_of_unnamed
    intro change member named
    exact unlisted
      (ChangeReport.mem_recordAll.2 (.inr ⟨change, member, named⟩))

section Lawful

variable [LawfulScalar α]

/-- After a drain, every control has the value queued last for it, or the one
that it had, up to equality of values. -/
theorem same_get_drain
    (valid : queue.Valid)
    (acceptable : panel.Acceptable)
    (control : Control) :
    ((queue.drain panel).state.1.get control).same
        ((queue.lastValue? control.path).getD (panel.get control)) = true := by
  have agrees := get_assignAll_effective panel queue.pending control
  rw [drain_eq valid panel]
  cases last : queue.lastValue? control.path with
  | none =>
      simp only [last] at agrees
      obtain ⟨accepted, taken⟩ := acceptable control
      rw [Option.getD_none, agrees]
      exact Control.same_self_of_accept taken
  | some value =>
      simp only [last] at agrees
      rw [Option.getD_some]
      rcases agrees with equal | equal
      · rw [equal]
        exact Control.same_self_of_accept (valid.lastValue? last)
      · exact equal

/-- A drain of queued inputs never stops. It gives every control the value
queued last for it and reports, in the order of the first such change, those
that a change gives another value. -/
theorem drain_ofInputs
    (acceptable : panel.Acceptable)
    (inputs : List (String × Value α)) :
    let queue := ofInputs inputs
    let after := (queue.drain panel).state.1
    ∃ report, (queue.drain panel).result = .ok report ∧
      (queue.drain panel).state.2.pending = [] ∧
      (∀ control, (after.get control).same
        ((queue.lastValue? control.path).getD (panel.get control)) = true) ∧
      (∀ control, queue.lastValue? control.path = none →
        after.get control = panel.get control) ∧
      report.Lists panel queue.pending ∧
      (∀ control, (panel.get control).same (after.get control) = false →
        control ∈ report.controls) ∧
      (report.needsCompile = true ↔
        ∃ control ∈ report.controls, control.decidesProgram = true) := by
  intro queue after
  have valid : queue.Valid := valid_ofInputs inputs
  obtain ⟨report, reported, lists, others⟩ :=
    exists_report_of_drain valid panel
  refine ⟨report, reported, ?emptied, ?values, ?unqueued, lists, ?changed,
    List.any_eq_true⟩
  case emptied => rw [drain_eq valid panel]
  case values => exact same_get_drain valid acceptable
  case unqueued => exact fun _ => get_drain_of_unqueued valid
  case changed =>
    intro control differs
    by_contra unlisted
    obtain ⟨accepted, taken⟩ := acceptable control
    rw [others control unlisted, Control.same_self_of_accept taken] at differs
    cases differs

end Lawful

/-- A radius that is changed and changed back is reported, and comes before the
tier; a time scale that stays the same in value is not. -/
theorem drain_ofInputs_changedBack :
    let panel : Panel Float :=
      Panel.initial.assign (.quantity .timeScale) (.number (.whole 2))
    let queue := ofInputs
      [("planet.radius", .real 0.9), ("time_scale", .real 2.0),
        ("quality", .text "high"), ("planet.radius", .real 0.4),
        ("radius", .real 0.5)]
    panel.Acceptable ∧
      ∃ report, (queue.drain panel).result = .ok report ∧
        report.controls = [.quantity .planetRadius, .quality] ∧
        report.Lists panel queue.pending := by
  intro panel queue
  have acceptable : panel.Acceptable := by
    intro control
    by_cases isScale : control = .quantity .timeScale
    · subst isScale
      exact ⟨.real 2.0, by rfl⟩
    · refine ⟨Panel.initial.get control, ?_⟩
      rw [Panel.get_assign_of_ne _ _ isScale]
      exact Panel.valid_initial control
  obtain ⟨report, reported, _, _, _, lists, _⟩ := drain_ofInputs acceptable
    [("planet.radius", .real 0.9), ("time_scale", .real 2.0),
      ("quality", .text "high"), ("planet.radius", .real 0.4),
      ("radius", .real 0.5)]
  have listed : (queue.drain panel).result.toOption.map ChangeReport.controls =
      some [.quantity .planetRadius, .quality] := by decide +kernel
  have found : (queue.drain panel).result = .ok report := reported
  rw [found] at listed
  exact ⟨acceptable, report, found, Option.some.inj listed, lists⟩

end ChangeQueue

end BlackHoleScene
