import BlackHoleScene.Fault.Message

/-!
# The log

What the operations of a scene report, by what happened. Warnings are meant for
the user; the rest is detail for whoever follows the program at work.
-/

namespace BlackHoleScene

/-- Something worth reporting. -/
inductive LogEntry (α : Type)
  /-- The graphics card was asked for and cannot be used. -/
  | cudaUnavailable
  /-- The camera has no direction to turn to and stays as it is. -/
  | keptOrientation (cause : Degeneracy α)
  | controlChanged (control : Control) (value : Value α)
  /-- A program text was made, the `number`-th one. -/
  | compiled
      (number : Nat)
      (text : String)
      (quality : Value α)
      (flags : List (String × Value α))
  /-- The observer moved on by a step of its own time, to a new reading of its
  clock. -/
  | advanced (radius speed step properTime : α)

/-- How serious a report is. -/
inductive Severity
  | debug
  | warning
  deriving DecidableEq

namespace LogEntry

/-- The severity of an entry. -/
def severity {α : Type} : LogEntry α → Severity
  | .cudaUnavailable => .warning
  | .keptOrientation _ => .warning
  | .controlChanged _ _ => .debug
  | .compiled _ _ _ _ => .debug
  | .advanced _ _ _ _ => .debug

/-- Named values in braces, names quoted. -/
def namedValues (values : List (String × Value Float)) : String :=
  let item := fun (entry : String × Value Float) =>
    (Value.text entry.1 : Value Float).written ++ ": " ++ entry.2.written
  "\x7b" ++ ", ".intercalate (values.map item) ++ "\x7d"

/-- A value as plain text: texts stand for themselves. -/
def plainText : Value Float → String
  | .text characters => characters
  | other => other.written

/-- The wording of an entry. -/
def message : LogEntry Float → String
  | .cudaUnavailable =>
      "CUDA requested but CuPy is not installed; observer state stays on NumPy"
  | .keptOrientation cause =>
      s!"keeping previous camera orientation: {cause.message}"
  | .controlChanged control value =>
      s!"parameter {control.path} = {value.written}"
  | .compiled number text quality flags =>
      s!"compiled shader program #{number} ({text.length} chars, " ++
        s!"quality={plainText quality}, flags={namedValues flags})"
  | .advanced radius speed step properTime =>
      s!"advanced observer: r={Decimal.fixed 4 radius} " ++
        s!"v={Decimal.fixed 4 speed} dtau={Decimal.fixed 6 step} " ++
        s!"tau={Decimal.fixed 6 properTime}"

end LogEntry

/-- What an operation leaves behind: its result or what kept it from one, the
state it reached either way, and what it reported, in order. -/
structure Outcome (α σ ρ : Type) where
  result : Except (Fault α) ρ
  state : σ
  log : List (LogEntry α) := []

namespace Outcome

variable {α σ τ ρ π : Type}

/-- A result with nothing to report. -/
def done (state : σ) (result : ρ) : Outcome α σ ρ :=
  { result := .ok result, state }

/-- A fault with nothing to report. -/
def stopped (state : σ) (fault : Fault α) : Outcome α σ ρ :=
  { result := .error fault, state }

/-- Go on from the state and the result of an operation, unless it stopped. -/
def andThen
    (first : Outcome α σ ρ)
    (next : σ → ρ → Outcome α σ π) : Outcome α σ π :=
  match first.result with
  | .error fault =>
      { result := .error fault, state := first.state, log := first.log }
  | .ok result =>
      let second := next first.state result
      { second with log := first.log ++ second.log }

@[simp] theorem done_andThen
    (state : σ)
    (result : ρ)
    (next : σ → ρ → Outcome α σ π) :
    (done state result).andThen next = next state result := rfl

@[simp] theorem stopped_andThen
    (state : σ)
    (fault : Fault α)
    (next : σ → ρ → Outcome α σ π) :
    (stopped state fault).andThen next = stopped state fault := rfl

/-- Place the state of an operation on a part inside the whole. -/
def within
    (inner : Outcome α σ ρ)
    (embed : σ → τ) : Outcome α τ ρ :=
  { result := inner.result, state := embed inner.state, log := inner.log }

end Outcome

end BlackHoleScene
