import BlackHoleScene.Program
import BlackHoleScene.Proofs.Control.Drain

/-!
# When the program text is that of the panel

The text that a stencil gives depends only on the controls that decide it, and a
panel with a step count always gives one. A program makes a new text exactly
when it is stale or has none, so after a renewal its text is that of the panel,
provided that a text which was not stale was.
-/

namespace BlackHoleScene

variable {α : Type} [Scalar α]

/-- Panels that agree on what decides the program text give the same text. -/
theorem Stencil.compile_congr
    (stencil : Stencil)
    {panel other : Panel α}
    (agree : panel.AgreeOnProgram other) :
    stencil.compile panel = stencil.compile other := by
  have quality : panel.quality = other.quality := agree .quality rfl
  have flags : panel.flag = other.flag :=
    funext fun which => agree (.flag which) rfl
  have bindings : panel.bindings = other.bindings := by
    simp only [Panel.bindings, Panel.stencilScalars, Panel.stencilFlags,
      Panel.steps, quality, flags]
  rw [compile, compile, bindings]

/-- A panel with a step count gives a text. -/
theorem Stencil.exists_compile_eq
    (stencil : Stencil)
    {panel : Panel α}
    (counted : ∃ count, panel.steps = .ok count) :
    ∃ text, stencil.compile panel = .ok text := by
  obtain ⟨count, steps⟩ := counted
  rw [compile, Panel.bindings, Panel.stencilScalars, steps]
  exact ⟨_, rfl⟩

/-- Only a panel with a step count gives a text. -/
theorem Stencil.exists_steps_of_compile
    {stencil : Stencil}
    {panel : Panel α}
    {text : String}
    (compiled : stencil.compile panel = .ok text) :
    ∃ count, panel.steps = .ok count := by
  cases counted : panel.steps with
  | error fault =>
      rw [compile, Panel.bindings, Panel.stencilScalars, counted] at compiled
      cases compiled
  | ok count => exact ⟨count, rfl⟩

namespace Program

/-- The program has a text that is not stale. -/
def IsCurrent (program : Program) : Prop :=
  program.isStale = false ∧ program.text?.isSome

/-- The program after a new text was made. -/
def withText (program : Program) (text : String) : Program :=
  { program with
    text? := some text
    isStale := false
    timesCompiled := program.timesCompiled + 1 }

/-- A current program is left as it is. -/
theorem renew_of_isCurrent
    {program : Program}
    (current : program.IsCurrent)
    (panel : Panel α) :
    program.renew panel = .done program none := by
  simp [renew, current.1, current.2]

/-- Any other program gets the text of the panel. -/
theorem renew_of_not_isCurrent
    {program : Program}
    {panel : Panel α}
    {text : String}
    (outdated : ¬program.IsCurrent)
    (compiled : program.stencil.compile panel = .ok text) :
    (program.renew panel).result = .ok (some text) ∧
      (program.renew panel).state = program.withText text := by
  have renews : (!program.isStale && program.text?.isSome) = false := by
    simpa [IsCurrent] using outdated
  simp [renew, renews, compiled, withText]

/-- Fetching gives the text that a renewal leaves behind. -/
theorem fetch_of_renew
    {program : Program}
    {panel : Panel α}
    {fresh? : Option String}
    (renewed : (program.renew panel).result = .ok fresh?) :
    (program.fetch panel).result =
        .ok ((fresh?.or (program.renew panel).state.text?).getD "") ∧
      (program.fetch panel).state = (program.renew panel).state :=
  Outcome.andThen_of_ok renewed _

end Program

end BlackHoleScene
