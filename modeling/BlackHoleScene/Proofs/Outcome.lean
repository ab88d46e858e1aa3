import BlackHoleScene.Log

/-!
# Results that were reached

A chain of operations gives a result only if each of them does. The lemmas here
take such a chain apart, for plain results and for outcomes that carry a state.
-/

namespace BlackHoleScene

/-- A chain of two operations gives a result when both do. -/
theorem bind_eq_ok_iff
    {ε ρ π : Type}
    {first : Except ε ρ}
    {next : ρ → Except ε π}
    {result : π} :
    first >>= next = .ok result ↔
      ∃ middle, first = .ok middle ∧ next middle = .ok result := by
  cases first <;> simp [bind, Except.bind]

/-- A result is transformed when there is one. -/
theorem map_eq_ok_iff
    {ε ρ π : Type}
    {first : Except ε ρ}
    {f : ρ → π}
    {result : π} :
    first.map f = .ok result ↔
      ∃ middle, first = .ok middle ∧ f middle = result := by
  cases first <;> simp [Except.map]

/-- Where there is no result, there is a fault. -/
theorem exists_error_of_isOk_eq_false
    {ε ρ : Type}
    {reached : Except ε ρ}
    (stopped : reached.isOk = false) :
    ∃ fault, reached = .error fault := by
  cases reached with
  | ok result => cases stopped
  | error fault => exact ⟨fault, rfl⟩

namespace Outcome

variable {α σ τ ρ π : Type}

/-- After an operation that gave a result, the next one decides result and
state. -/
theorem andThen_of_ok
    {first : Outcome α σ ρ}
    {result : ρ}
    (reached : first.result = .ok result)
    (next : σ → ρ → Outcome α σ π) :
    (first.andThen next).result = (next first.state result).result ∧
      (first.andThen next).state = (next first.state result).state := by
  simp [andThen, reached]

/-- After an operation that stopped, nothing more is done. -/
theorem andThen_of_error
    {first : Outcome α σ ρ}
    {fault : Fault α}
    (stopped : first.result = .error fault)
    (next : σ → ρ → Outcome α σ π) :
    (first.andThen next).result = .error fault ∧
      (first.andThen next).state = first.state := by
  simp [andThen, stopped]

/-- What holds after an operation, and after whatever follows it, holds after
the chain. -/
theorem andThen_state
    {motive : σ → Prop}
    {first : Outcome α σ ρ}
    {next : σ → ρ → Outcome α σ π}
    (afterFirst : motive first.state)
    (afterNext : ∀ result, motive (next first.state result).state) :
    motive (first.andThen next).state := by
  unfold andThen
  cases first.result with
  | error fault => exact afterFirst
  | ok result => exact afterNext result

/-- An operation whose result is only passed on leaves the state that it
reached. -/
theorem andThen_done
    (first : Outcome α σ ρ)
    (f : ρ → π) :
    (first.andThen fun state result => done state (f result)) =
      { result := first.result.map f, state := first.state,
        log := first.log } := by
  unfold andThen
  cases first.result with
  | error fault => rfl
  | ok result => simp [done, Except.map]

end Outcome

end BlackHoleScene
