import BlackHoleScene.Proofs.Scalar.Lawful
import BlackHoleScene.Proofs.Session.History

/-!
# Pausing and resuming a valid session

Zero and one are time scales, and so is every time scale that a session
remembers. So a valid session can always be paused and resumed: a pause
remembers the time scale that the session heads for and queues a zero, and the
resumption queues the remembered time scale, or one if that is zero.
-/

namespace BlackHoleScene

variable {α : Type} [Scalar α] [LawfulScalar α]

namespace Control

/-- Zero is a time scale. -/
theorem valid_timeScale_zero :
    (quantity .timeScale).Valid (.real 0.0 : Value α) := by
  have zero : Scalar.isFinite (0.0 : α) = true := LawfulScalar.isFinite_zero
  have notBelow : ¬(0.0 : α) < 0.0 := by
    rw [LawfulScalar.lt_iff_not_le zero zero, not_not]
    exact (Scalar.same_self zero).1
  exact valid_quantity_iff.2 ⟨0.0, rfl, zero, if_neg notBelow⟩

/-- One is a time scale. -/
theorem valid_timeScale_one :
    (quantity .timeScale).Valid (.real 1.0 : Value α) := by
  have zero : Scalar.isFinite (0.0 : α) = true := LawfulScalar.isFinite_zero
  have one : Scalar.isFinite (1.0 : α) = true := LawfulScalar.isFinite_one
  have notAbove : ¬(1.0 : α) ≤ 0.0 :=
    (LawfulScalar.lt_iff_not_le zero one).1 LawfulScalar.zero_lt_one
  have notBelow : ¬(1.0 : α) < 0.0 := by
    rw [LawfulScalar.lt_iff_not_le one zero, not_not]
    exact (LawfulScalar.le_total zero one).resolve_right notAbove
  exact valid_quantity_iff.2 ⟨1.0, rfl, one, if_neg notBelow⟩

end Control

namespace Value

/-- The time scale to run at after a pause: the one before it, or one if that is
zero. -/
def restored (scale : Value α) : Value α :=
  if scale.same (.real 0.0) then .real 1.0 else scale

section Restored

variable {scale other : Value α}

/-- A time scale is zero, or counts as true. -/
theorem restored_of_valid
    (valid : (Control.quantity .timeScale).Valid scale) :
    scale.restored = if scale.isTruthy then scale else .real 1.0 := by
  obtain ⟨x, rfl, finite, _⟩ := Control.valid_quantity_iff.1 valid
  by_cases zero : Scalar.Same x 0.0
  · have isZero := (same_real_iff finite LawfulScalar.isFinite_zero).2 zero
    have isFalse : ¬(real x).isTruthy = true := by
      rw [isTruthy_real_iff finite, not_not]
      exact zero
    rw [restored, if_pos isZero, if_neg isFalse]
  · have nonzero :=
      (same_real_iff finite LawfulScalar.isFinite_zero).not.2 zero
    rw [restored, if_neg nonzero, if_pos ((isTruthy_real_iff finite).2 zero)]

/-- The time scale to run at is a time scale. -/
theorem valid_restored
    (valid : (Control.quantity .timeScale).Valid scale) :
    (Control.quantity .timeScale).Valid scale.restored := by
  unfold restored
  split
  · exact Control.valid_timeScale_one
  · exact valid

/-- The time scale to run at is not zero. -/
theorem same_zero_restored (scale : Value α) :
    scale.restored.same (.real 0.0) = false := by
  unfold restored
  split
  · rw [← Bool.not_eq_true,
      same_real_iff LawfulScalar.isFinite_one LawfulScalar.isFinite_zero]
    exact Scalar.not_same_one_zero
  · next nonzero => simpa using nonzero

/-- A pause later on leads back to the same time scale. -/
theorem restored_restored (scale : Value α) :
    scale.restored.restored = scale.restored := by
  rw [restored, same_zero_restored]
  rfl

/-- Time scales that are equal in value are the same, or zeros. -/
theorem eq_or_zero_of_same
    (valid : (Control.quantity .timeScale).Valid scale)
    (validToo : (Control.quantity .timeScale).Valid other)
    (equal : scale.same other = true) :
    scale = other ∨
      scale.same (.real 0.0) = true ∧ other.same (.real 0.0) = true := by
  obtain ⟨x, rfl, finite, _⟩ := Control.valid_quantity_iff.1 valid
  obtain ⟨y, rfl, finiteToo, _⟩ := Control.valid_quantity_iff.1 validToo
  rw [same_real_iff finite finiteToo] at equal
  rw [same_real_iff finite LawfulScalar.isFinite_zero,
    same_real_iff finiteToo LawfulScalar.isFinite_zero]
  exact (LawfulScalar.eq_or_zero_of_same finite finiteToo equal).imp_left
    (congrArg real)

/-- Time scales that are equal in value lead back to the same one after a pause.
-/
theorem restored_congr
    (valid : (Control.quantity .timeScale).Valid scale)
    (validToo : (Control.quantity .timeScale).Valid other)
    (equal : scale.same other = true) :
    scale.restored = other.restored := by
  rcases eq_or_zero_of_same valid validToo equal with rfl | ⟨zero, zeroToo⟩
  · rfl
  · rw [restored, restored, if_pos zero, if_pos zeroToo]

/-- A time scale that is equal in value to one to run at is that one. -/
theorem eq_restored_of_same
    (valid : (Control.quantity .timeScale).Valid scale)
    (validToo : (Control.quantity .timeScale).Valid other)
    (equal : scale.same other.restored = true) :
    scale = other.restored := by
  rcases eq_or_zero_of_same valid (valid_restored validToo) equal with same |
    ⟨_, zero⟩
  · exact same
  · rw [same_zero_restored] at zero
    cases zero

end Restored

end Value

namespace Session

omit [LawfulScalar α] in
/-- A valid value is queued as it is. -/
theorem enqueue_eq
    (session : Session α)
    {control : Control}
    {value : Value α}
    (valid : control.Valid value) :
    session.enqueue control.path value =
      .done
        { session with
          queue :=
            ⟨session.queue.pending ++ [⟨control, value⟩]⟩ } () := by
  have named :
      (Control.ofPath control.path : Except (Fault α) Control) =
        .ok control := by
    rw [Control.ofPath, Control.ofPath?_path]
  have accepted : control.accept value = .ok value := valid
  have queued : session.queue.enqueue control.path value =
      .ok ⟨session.queue.pending ++ [⟨control, value⟩]⟩ := by
    simp only [ChangeQueue.enqueue, named, accepted, bind, Except.bind, pure,
      Except.pure]
  rw [enqueue, queued]

/-- Resuming a valid session queues the time scale to run at. -/
theorem pauseOrResume_of_paused
    {session : Session α}
    (valid : session.Valid)
    (paused : session.paused = true) :
    session.pauseOrResume.result = .ok false ∧
      session.pauseOrResume.state =
        { session with
          queue :=
            ⟨session.queue.pending ++
              [⟨.quantity .timeScale, session.resumeScale.restored⟩]⟩
          paused := false } := by
  have queued :
      session.enqueue Quantity.timeScale.path session.resumeScale.restored =
        _ :=
    session.enqueue_eq (Value.valid_restored valid.resumeScale)
  rw [pauseOrResume, if_pos paused,
    ← Value.restored_of_valid valid.resumeScale]
  dsimp only
  rw [queued]
  exact ⟨rfl, rfl⟩

/-- Pausing a session remembers the time scale that it heads for, and queues a
zero. -/
theorem pauseOrResume_of_running
    (session : Session α)
    (running : session.paused = false) :
    session.pauseOrResume.result = .ok true ∧
      session.pauseOrResume.state =
        { session with
          queue :=
            ⟨session.queue.pending ++
              [⟨.quantity .timeScale, .real 0.0⟩]⟩
          resumeScale := session.effectiveTimeScale
          paused := true } := by
  have queued :
      Session.enqueue { session with resumeScale := session.effectiveTimeScale }
      Quantity.timeScale.path (.real 0.0) = _ :=
    enqueue_eq _ Control.valid_timeScale_zero
  rw [pauseOrResume, if_neg (by simp [running])]
  dsimp only
  rw [queued]
  exact ⟨rfl, rfl⟩

/-- A valid session can always be paused or resumed. -/
theorem pauseOrResume_result
    {session : Session α}
    (valid : session.Valid) :
    session.pauseOrResume.result = .ok !session.paused := by
  cases paused : session.paused with
  | true => exact (pauseOrResume_of_paused valid paused).1
  | false => exact (session.pauseOrResume_of_running paused).1

end Session

end BlackHoleScene
