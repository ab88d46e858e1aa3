import BlackHoleScene.Arithmetic
import BlackHoleScene.Control.Basic

/-!
# The control panel

A panel holds the current value of every control. Values that input handlers
supply are accepted first: `Control.accept` checks the kind and the range of a
value and gives it the form in which the panel holds it. Values may also be
placed on the panel directly, unchecked; every reader of the panel copes with
what it then finds.
-/

namespace BlackHoleScene

variable {α : Type}

namespace Control

/-- Refuse a value for a cause that shows it. For a value that cannot be written
there is no such cause. -/
def refuse
    {ρ : Type}
    (cause : Value α → ControlFault α)
    (value : Value α) : Except (Fault α) ρ :=
  if value.isWritable then .error (.control (cause value))
  else Arithmetic.fail .notNumeral

section Refuse

variable {ρ : Type} {cause : Value α → ControlFault α} {value : Value α}

/-- What is refused is not accepted. -/
@[simp] theorem refuse_ne_ok {result : ρ} :
    refuse cause value ≠ .ok result := by
  unfold refuse Arithmetic.fail
  split <;> simp

/-- A value that can be written is refused for the cause. -/
theorem refuse_of_writable
    (writable : value.isWritable = true) :
    (refuse cause value : Except (Fault α) ρ) =
      .error (.control (cause value)) :=
  if_pos writable

/-- A value that cannot be written is refused for want of a numeral. -/
theorem refuse_of_not_writable
    (unwritable : value.isWritable = false) :
    (refuse cause value : Except (Fault α) ρ) =
      .error (.arithmetic .notNumeral) :=
  if_neg (by simp [unwritable])

@[simp] theorem map_refuse
    {τ : Type}
    (f : ρ → τ) :
    (refuse cause value : Except (Fault α) ρ).map f = refuse cause value := by
  unfold refuse Arithmetic.fail
  split <;> rfl

end Refuse

end Control

variable [Scalar α]

namespace Quality

/-- The tier that a value names. -/
def ofValue? : Value α → Option Quality
  | .text name => ofName? name
  | _ => none

/-- Ray-marching steps of the tier that a value names. A list cannot be a name.
-/
def stepsOf (value : Value α) : Except (Fault α) Nat :=
  match ofValue? value, value with
  | some quality, _ => .ok quality.steps
  | none, .list _ => .error .unsuitable
  | none, other => Control.refuse .unknownQuality other

end Quality

namespace Quantity

/-- Smallest radius at which a circular orbit is slower than light, itself
excluded. -/
def leastDistance : α := 1.5

/-- What is wrong with the value of a quantity, if something is. -/
def violation? (quantity : Quantity) (x : α) : Option (ControlFault α) :=
  match quantity with
  | .timeScale => if x < 0.0 then some (.negativeTimeScale x) else none
  | .observerDistance =>
      if x ≤ leastDistance then some (.distanceTooSmall x) else none
  | .planetDistance =>
      if x ≤ 0.0 then some (.notPositive .planetDistance x) else none
  | .planetRadius =>
      if x ≤ 0.0 then some (.notPositive .planetRadius x) else none
  | .orbitalInclination => none

/-- Accept a value for a quantity: a finite number within its bound. -/
def accept (quantity : Quantity) (value : Value α) : Except (Fault α) α :=
  match value with
  | .number (.truth holds) =>
      Control.refuse (.notNumber quantity) (.truth holds)
  | .number x => do
      let y ← Arithmetic.scalar x
      if !Scalar.isFinite y then .error (.control (.notFinite quantity value))
      else
        match quantity.violation? y with
        | some cause => .error (.control cause)
        | none => .ok y
  | value => Control.refuse (.notNumber quantity) value

end Quantity

namespace Control

/-- Accept a value for a control, in the form in which a panel holds it. -/
def accept
    (control : Control)
    (value : Value α) : Except (Fault α) (Value α) :=
  match control with
  | .quality =>
      match value with
      | .text name =>
          (Quality.stepsOf (.text name : Value α)).map fun _ => .text name
      | other => refuse .qualityNotText other
  | .flag which =>
      match value with
      | .number (.truth holds) => .ok (.truth holds)
      | other => refuse (.notTruth which) other
  | .quantity which => (which.accept value).map .real

/-- The control that a path names. -/
def ofPath (path : String) : Except (Fault α) Control :=
  match ofPath? path with
  | some control => .ok control
  | none => .error (.control (.unknownPath path))

end Control

/-- The current value of every control. -/
structure Panel (α : Type) where
  quality : Value α
  flag : Flag → Value α
  quantity : Quantity → Value α

namespace Panel

/-- Everything switched on, the observer on a slightly tilted orbit beyond the
planet's. -/
def initial : Panel α where
  quality := .text Quality.medium.name
  flag := fun _ => .truth true
  quantity
    | .timeScale => .real 1.0
    | .planetDistance => .real 7.0
    | .planetRadius => .real 0.4
    | .observerDistance => .real 11.0
    | .orbitalInclination => .real (-10.0)

/-- The value of a control. -/
def get (panel : Panel α) : Control → Value α
  | .quality => panel.quality
  | .flag which => panel.flag which
  | .quantity which => panel.quantity which

/-- Place a value on the panel, unchecked. -/
def assign
    (panel : Panel α)
    (control : Control)
    (value : Value α) : Panel α :=
  match control with
  | .quality => { panel with quality := value }
  | .flag which =>
      { panel with
        flag := fun other => if other = which then value else panel.flag other }
  | .quantity which =>
      { panel with
        quantity :=
          fun other => if other = which then value else panel.quantity other }

/-- Accept a value and place it on the panel. -/
def set
    (panel : Panel α)
    (control : Control)
    (value : Value α) : Except (Fault α) (Panel α) :=
  (control.accept value).map (panel.assign control)

/-- Accept a value for the control of a path and place it on the panel. -/
def setAt
    (panel : Panel α)
    (path : String)
    (value : Value α) : Except (Fault α) (Panel α) := do
  panel.set (← Control.ofPath path) value

omit [Scalar α] in
@[simp] theorem get_assign_self
    (panel : Panel α)
    (control : Control)
    (value : Value α) :
    (panel.assign control value).get control = value := by
  cases control <;> simp [assign, get]

omit [Scalar α] in
theorem get_assign_of_ne
    (panel : Panel α)
    {control other : Control}
    (value : Value α)
    (different : other ≠ control) :
    (panel.assign control value).get other = panel.get other := by
  cases control <;> cases other <;> simp_all [assign, get]

/-- A flag is on. -/
def isOn (panel : Panel α) (flag : Flag) : Bool := (panel.flag flag).isTruthy

/-- The planet or the observer moves by itself. -/
def isAnimated (panel : Panel α) : Bool :=
  panel.isOn .planetEnabled || panel.isOn .observerMotion

/-- Ray-marching steps of the current tier. -/
def steps (panel : Panel α) : Except (Fault α) Nat :=
  Quality.stepsOf panel.quality

/-- A quantity as a scalar. -/
def scalar (panel : Panel α) (quantity : Quantity) : Except (Fault α) α :=
  Arithmetic.scalarOf (panel.quantity quantity)

end Panel

end BlackHoleScene
