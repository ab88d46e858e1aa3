import BlackHoleScene.Proofs.Scalar.Whole
import BlackHoleScene.Proofs.Session.SoundPanel

/-!
# Values that are refused

A control takes values of its kind that are finite and within its bound once
they are doubles: `Control.Takes`. What it does not take is refused and leaves
panel and queue as they were, whether the value was to be set or queued. The
refusal names the control's fault, except for an integer that becomes no double
and for one that is too long to be written: `Session.enqueue_and_set`.
-/

namespace BlackHoleScene

namespace Quantity

/-- A double is within the bound of a quantity. -/
def Within : Quantity → Float → Prop
  | .timeScale, x => 0.0 ≤ x
  | .planetDistance, x => 0.0 < x
  | .planetRadius, x => 0.0 < x
  | .observerDistance, x => 1.5 < x
  | .orbitalInclination, _ => True

/-- Among finite doubles, nothing is wrong with those within the bound. -/
theorem violation?_eq_none_iff
    {which : Quantity}
    {x : Float}
    (finite : x.isFinite = true) :
    which.violation? x = none ↔ which.Within x := by
  have zero : Scalar.isFinite (0.0 : Float) = true := LawfulScalar.isFinite_zero
  have least : Scalar.isFinite (leastDistance : Float) = true := by
    decide +kernel
  have above {bound : Float} (regular : Scalar.isFinite bound = true) :
      ¬x ≤ bound ↔ bound < x :=
    (LawfulScalar.lt_iff_not_le regular finite).symm
  cases which with
  | timeScale =>
      have notBelow : ¬x < 0.0 ↔ 0.0 ≤ x := by
        rw [LawfulScalar.lt_iff_not_le finite zero, not_not]
      simpa [violation?, Within] using notBelow
  | planetDistance => simpa [violation?, Within] using above zero
  | planetRadius => simpa [violation?, Within] using above zero
  | observerDistance =>
      change _ ↔ leastDistance < x
      simpa [violation?] using above least
  | orbitalInclination => exact iff_of_true rfl trivial

section Number

variable
  {which : Quantity}
  {number : Number Float}
  {x : Float}
  (kind : ∀ holds, number ≠ .truth holds)
  (scalar : number.toScalar? = some x)
include kind scalar

/-- A finite double within the bound is accepted. -/
theorem accept_of_within
    (finite : x.isFinite = true)
    (within : which.Within x) :
    which.accept (.number number) = .ok x := by
  have regular : Scalar.isFinite x = true := finite
  rw [accept_number kind scalar, if_pos regular,
    (violation?_eq_none_iff finite).2 within, Option.elim_none]

/-- Other doubles are at fault. -/
theorem exists_control_of_not_within
    (outside : ¬(x.isFinite = true ∧ which.Within x)) :
    ∃ cause, which.accept (.number number) = .error (.control cause) := by
  rw [accept_number kind scalar]
  by_cases finite : Scalar.isFinite x = true
  · rw [if_pos finite]
    cases violation : which.violation? x with
    | none =>
        exact absurd
          ⟨finite, (violation?_eq_none_iff finite).1 violation⟩ outside
    | some cause => exact ⟨cause, rfl⟩
  · exact ⟨_, if_neg finite⟩

end Number

/-- An integer that becomes no double stops in its conversion. -/
theorem accept_eq_overflow
    {which : Quantity}
    {n : Int}
    (beyond : Decimal.floatOfInt? n = none) :
    which.accept (.number (.whole n)) =
      (.error (.arithmetic .overflow) : Except (Fault Float) Float) := by
  have stopped : (Arithmetic.scalar (.whole n) : Except (Fault Float) Float) =
      .error (.arithmetic .overflow) := by
    simp only [Arithmetic.scalar, Number.toScalar?, Scalar.ofInt?, beyond,
      Arithmetic.fail]
  simp only [accept, stopped, bind, Except.bind]

end Quantity

namespace Control

/-- What a control takes, and the form in which it is held: the name of a tier,
a truth value, or a number that is no truth value and whose double is finite and
within the bound. -/
inductive Takes : Control → Value Float → Value Float → Prop
  | quality (tier : Quality) :
    Takes .quality (.text tier.name) (.text tier.name)
  | flag (which : Flag) (holds : Bool) :
    Takes (.flag which) (.truth holds) (.truth holds)
  | whole
      {which : Quantity}
      {n : Int}
      {x : Float}
      (nearest : Decimal.floatOfInt? n = some x)
      (finite : x.isFinite = true)
      (within : which.Within x) :
      Takes (.quantity which) (.number (.whole n)) (.real x)
  | real
      {which : Quantity}
      {x : Float}
      (finite : x.isFinite = true)
      (within : which.Within x) :
      Takes (.quantity which) (.real x) (.real x)

/-- The control is a quantity's, and the value an integer that becomes no
double. -/
def Overflows (control : Control) (value : Value Float) : Prop :=
  ∃ which n, control = .quantity which ∧ value = .number (.whole n) ∧
    2 ^ 1024 ≤ n.natAbs + 2 ^ 970

/-- The refusal has to show an integer that is too long to be written. -/
def Unwritten (control : Control) (value : Value Float) : Prop :=
  value.isWritable = false ∧ ¬control.Overflows value

/-- What a control makes of a value: it takes it, or stops in its conversion or
in the writing of it, or finds fault with it. -/
inductive Answers (control : Control) (value : Value Float) :
    Except (Fault Float) (Value Float) → Prop
  | takes
      {held : Value Float}
      (takes : control.Takes value held) :
      Answers control value (.ok held)
  | overflows
      (overflows : control.Overflows value) :
      Answers control value (.error (.arithmetic .overflow))
  | unwritten
      (unwritten : control.Unwritten value) :
      Answers control value (.error (.arithmetic .notNumeral))
  | fault
      (cause : ControlFault Float)
      (writable : value.isWritable = true)
      (converts : ¬control.Overflows value) :
      Answers control value (.error (.control cause))

/-- The path of a control names it. -/
theorem ofPath_path {α : Type} (control : Control) :
    (ofPath control.path : Except (Fault α) Control) = .ok control := by
  rw [ofPath, ofPath?_path]

/-- A control accepts what it takes. -/
theorem Takes.accept_eq
    {control : Control}
    {value held : Value Float}
    (takes : control.Takes value held) :
    control.accept value = .ok held := by
  cases takes with
  | quality tier => exact valid_quality_iff.2 ⟨tier, rfl⟩
  | flag which holds => rfl
  | @whole which n x nearest finite within =>
      have kind (holds : Bool) :
          Number.whole n ≠ (.truth holds : Number Float) := by simp
      rw [accept, Quantity.accept_of_within kind nearest finite within]
      rfl
  | @real which x finite within =>
      have kind (holds : Bool) : Number.real x ≠ .truth holds := by simp
      rw [accept, Quantity.accept_of_within kind rfl finite within]
      rfl

theorem Overflows.accept_eq
    {control : Control}
    {value : Value Float}
    (overflows : control.Overflows value) :
    control.accept value = .error (.arithmetic .overflow) := by
  obtain ⟨which, n, rfl, rfl, beyond⟩ := overflows
  rw [accept,
    Quantity.accept_eq_overflow ((Decimal.floatOfInt?_eq_none_iff n).2 beyond)]
  rfl

/-- Only under a quantity does an integer overflow. -/
theorem not_overflows
    {control : Control}
    {value : Value Float}
    (other :
      ∀ which n, control = .quantity which → value ≠ .number (.whole n)) :
    ¬control.Overflows value := by
  rintro ⟨which, n, named, whole, _⟩
  exact other which n named whole

/-- A refusal that shows the value is the control's fault, or stops in writing
it. -/
theorem answers_refuse
    {control : Control}
    {value : Value Float}
    (converts : ¬control.Overflows value)
    (cause : Value Float → ControlFault Float) :
    control.Answers value (refuse cause value) := by
  cases writable : value.isWritable with
  | true =>
      rw [refuse_of_writable writable]
      exact .fault _ writable converts
  | false =>
      rw [refuse_of_not_writable writable]
      exact .unwritten ⟨writable, converts⟩

example :
    (Value.number (.whole (10 ^ 4300)) : Value Float).isWritable = false := by
  decide +kernel

/-- A tier is taken by its name. -/
theorem answers_quality (value : Value Float) :
    quality.Answers value (quality.accept value) := by
  have converts : ¬quality.Overflows value := not_overflows (by simp)
  cases value with
  | none => exact answers_refuse converts _
  | number x => exact answers_refuse converts _
  | list items => exact answers_refuse converts _
  | text name =>
      cases found : Quality.ofName? name with
      | some tier =>
          obtain rfl := Quality.eq_name_of_ofName? found
          have takes := Takes.quality tier
          rw [takes.accept_eq]
          exact .takes takes
      | none =>
          have unknown : quality.accept (.text name : Value Float) =
              .error (.control (.unknownQuality (.text name))) := by
            simp only [accept, Quality.stepsOf, Quality.ofValue?, found]
            rfl
          rw [unknown]
          exact .fault _ rfl converts

/-- A flag takes truth values. -/
theorem answers_flag (which : Flag) (value : Value Float) :
    (flag which).Answers value ((flag which).accept value) := by
  have converts : ¬(flag which).Overflows value := not_overflows (by simp)
  rcases value with _ | (holds | n | x) | name | items
  case number.truth => exact .takes (.flag which holds)
  all_goals exact answers_refuse converts _

/-- An integer that becomes a double can be written. -/
theorem isWritable_of_toScalar?
    {number : Number Float}
    {x : Float}
    (scalar : number.toScalar? = some x) :
    number.isWritable = true := by
  cases number with
  | truth holds => rfl
  | real y => rfl
  | whole n =>
      have converts : ¬2 ^ 1024 ≤ n.natAbs + 2 ^ 970 := by
        intro beyond
        have stops := (Decimal.floatOfInt?_eq_none_iff n).2 beyond
        cases stops.symm.trans scalar
      have below : n.natAbs < 10 ^ 1024 :=
        calc n.natAbs
          _ ≤ n.natAbs + 2 ^ 970 := Nat.le_add_right _ _
          _ < 2 ^ 1024 := not_le.1 converts
          _ ≤ 10 ^ 1024 := pow_le_pow_left₀ (by decide) (by decide) 1024
      have short := Nat.toDigits_length 10 n.natAbs 1024 (by decide) below
      exact decide_eq_true (short.trans (by decide))

/-- A quantity takes the doubles within its bound. -/
theorem answers_of_toScalar?
    (which : Quantity)
    {number : Number Float}
    {x : Float}
    (kind : ∀ holds, number ≠ .truth holds)
    (scalar : number.toScalar? = some x) :
    (quantity which).Answers (.number number)
      ((quantity which).accept (.number number)) := by
  by_cases inside : x.isFinite = true ∧ which.Within x
  · have takes : (quantity which).Takes (.number number) (.real x) := by
      cases number with
      | truth holds => exact absurd rfl (kind holds)
      | whole n => exact .whole scalar inside.1 inside.2
      | real y =>
          cases scalar
          exact .real inside.1 inside.2
    rw [takes.accept_eq]
    exact .takes takes
  · obtain ⟨cause, fault⟩ :=
      Quantity.exists_control_of_not_within kind scalar inside
    have refused : (quantity which).accept (.number number) =
        .error (.control cause) := by
      rw [accept, fault]
      rfl
    rw [refused]
    refine .fault cause (isWritable_of_toScalar? scalar) ?_
    intro beyond
    cases refused.symm.trans beyond.accept_eq

/-- A quantity takes numbers within its bound, if they become doubles. -/
theorem answers_quantity (which : Quantity) (value : Value Float) :
    (quantity which).Answers value ((quantity which).accept value) := by
  rcases value with _ | (holds | n | x) | name | items
  case number.whole =>
    cases nearest : Decimal.floatOfInt? n with
    | some x => exact answers_of_toScalar? which (by simp) nearest
    | none =>
        have overflows : (quantity which).Overflows (.number (.whole n)) :=
          ⟨which, n, rfl, rfl,
            (Decimal.floatOfInt?_eq_none_iff n).1 nearest⟩
        rw [overflows.accept_eq]
        exact .overflows overflows
  case number.real => exact answers_of_toScalar? which (by simp) rfl
  all_goals
    simp only [accept, Quantity.accept, map_refuse]
    exact answers_refuse (not_overflows (by simp)) _

/-- Every control answers in one of the four ways. -/
theorem answers_accept (control : Control) (value : Value Float) :
    control.Answers value (control.accept value) := by
  cases control with
  | quality => exact answers_quality value
  | flag which => exact answers_flag which value
  | quantity which => exact answers_quantity which value

end Control

namespace Session

variable (session : Session Float)

/-- What the control of a path takes is queued, and set, in the form in which it
is held. -/
theorem enqueue_and_set_of_accept
    {control : Control}
    {value held : Value Float}
    (accepted : control.accept value = .ok held) :
    session.enqueue control.path value =
        .done
          { session with
            queue :=
              ⟨session.queue.pending ++ [⟨control, held⟩]⟩ } () ∧
      session.set control.path value =
        .done
          { session with panel := session.panel.assign control held } () := by
  simp only [enqueue, ChangeQueue.enqueue, set, Panel.setAt, Panel.set,
    Control.ofPath_path, accepted, bind, Except.bind, pure, Except.pure,
    Except.map, and_self]

/-- What the control of a path does not accept is neither queued nor set. -/
theorem enqueue_and_set_of_fault
    {control : Control}
    {value : Value Float}
    {fault : Fault Float}
    (refused : control.accept value = .error fault) :
    session.enqueue control.path value = .stopped session fault ∧
      session.set control.path value = .stopped session fault := by
  simp only [enqueue, ChangeQueue.enqueue, set, Panel.setAt, Panel.set,
    Control.ofPath_path, refused, bind, Except.bind, Except.map, and_self]

/-- Under the path of no control, nothing is queued or set. -/
theorem enqueue_and_set_of_unknownPath
    {path : String}
    (unknown : ∀ control : Control, control.path ≠ path)
    (value : Value Float) :
    session.enqueue path value =
      .stopped session (.control (.unknownPath path)) ∧
      session.set path value =
        .stopped session (.control (.unknownPath path)) := by
  have named : (Control.ofPath path : Except (Fault Float) Control) =
      .error (.control (.unknownPath path)) := by
    cases found : (Control.ofPath path : Except (Fault Float) Control) with
    | ok control =>
        exact absurd (Control.path_of_ofPath found) (unknown control)
    | error fault =>
        unfold Control.ofPath at found
        split at found
        · cases found
        · exact found.symm
  simp only [enqueue, ChangeQueue.enqueue, set, Panel.setAt, named, bind,
    Except.bind, and_self]

/-- A value is queued, and set, exactly if its path is that of a control that
takes it. Otherwise nothing changes, and the fault is the control's unless an
integer overflows or is too long to be written. -/
theorem enqueue_and_set (path : String) (value : Value Float) :
    (∃ (control : Control) (held : Value Float),
      control.path = path ∧ control.Takes value held ∧
        session.enqueue path value =
          .done
            { session with
              queue := ⟨session.queue.pending ++ [⟨control, held⟩]⟩ }
            () ∧
        session.set path value =
          .done
            { session with panel := session.panel.assign control held } ()) ∨
    (∀ (control : Control) (held : Value Float),
      control.path = path → ¬control.Takes value held) ∧
      ∃ fault,
        session.enqueue path value = .stopped session fault ∧
        session.set path value = .stopped session fault ∧
        ((∃ cause, fault = .control cause) ∧
            (∀ control : Control, control.path = path →
              ¬control.Overflows value ∧ ¬control.Unwritten value) ∨
          fault = .arithmetic .overflow ∧
            (∃ control : Control,
              control.path = path ∧ control.Overflows value) ∨
          fault = .arithmetic .notNumeral ∧
            ∃ control : Control,
              control.path = path ∧ control.Unwritten value) := by
  by_cases known : ∃ control : Control, control.path = path
  case neg =>
    have unknown (control : Control) : control.path ≠ path :=
      fun named => known ⟨control, named⟩
    obtain ⟨queued, set⟩ :=
      session.enqueue_and_set_of_unknownPath unknown value
    exact .inr ⟨fun control _ named => absurd named (unknown control), _,
      queued, set,
      .inl
        ⟨⟨_, rfl⟩,
          fun control named => absurd named (unknown control)⟩⟩
  case pos =>
    obtain ⟨control, rfl⟩ := known
    have only {other : Control} (named : other.path = control.path) :
        other = control :=
      Control.eq_of_path_eq named
    have answers := control.answers_accept value
    cases answer : control.accept value with
    | ok held =>
        rw [answer] at answers
        obtain ⟨takes⟩ := answers
        obtain ⟨queued, set⟩ := session.enqueue_and_set_of_accept answer
        exact .inl ⟨control, held, rfl, takes, queued, set⟩
    | error fault =>
        rw [answer] at answers
        obtain ⟨queued, set⟩ := session.enqueue_and_set_of_fault answer
        refine .inr ⟨?never, fault, queued, set, ?kind⟩
        case never =>
          intro other held named takes
          cases answer.symm.trans (only named ▸ takes).accept_eq
        case kind =>
          cases answers with
          | overflows overflows =>
              exact .inr (.inl ⟨rfl, control, rfl, overflows⟩)
          | unwritten unwritten =>
              exact .inr (.inr ⟨rfl, control, rfl, unwritten⟩)
          | fault cause writable converts =>
              refine .inl ⟨⟨cause, rfl⟩, fun other named => ?_⟩
              rw [only named]
              refine ⟨converts, fun unwritten => ?_⟩
              cases writable.symm.trans unwritten.1

/-- The power of two beyond the largest double overflows as a time scale,
whether it is queued or set. -/
theorem overflow_of_wholeTimeScale :
    let session := opening "" Panel.initial .initial .start
    let scale : Value Float := .number (.whole (2 ^ 1024 : Nat))
    session.enqueue "time_scale" scale =
      .stopped session (.arithmetic .overflow) ∧
      session.set "time_scale" scale =
        .stopped session (.arithmetic .overflow) ∧
      ∀ cause : ControlFault Float,
        (.arithmetic .overflow : Fault Float) ≠ .control cause := by
  intro session scale
  have beyond : (Control.quantity .timeScale).Overflows scale :=
    ⟨.timeScale, _, rfl, rfl, le_add_right (Int.natAbs_natCast _).ge⟩
  obtain ⟨queued, set⟩ := session.enqueue_and_set_of_fault beyond.accept_eq
  exact ⟨queued, set, by simp⟩

end Session

end BlackHoleScene
