import BlackHoleScene.Control.Panel
import BlackHoleScene.Log
import BlackHoleScene.Stencil.Rendering

/-!
# The shader program

The text of the shader program is made from a stencil: the flags of the panel
decide which sections stay, and the step count of the quality tier is filled in.
`Program` keeps the text that was made last and makes a new one only when it is
stale.
-/

namespace BlackHoleScene

variable {α : Type} [Scalar α]

namespace Panel

/-- The flags that a stencil can refer to, by name. The fastest tier never shows
the planet. -/
def stencilFlags (panel : Panel α) : List (String × Value α) :=
  let planet := panel.flag .planetEnabled
  let fast := panel.quality.same (.text Quality.fast.name)
  [("planetEnabled", if planet.isTruthy then .truth !fast else planet),
    ("observerMotion", panel.flag .observerMotion),
    ("light_travel_time", panel.flag .lightTravelTime),
    ("lorentz_contraction", panel.flag .lorentzContraction),
    ("gravitational_time_dilation", panel.flag .gravitationalTimeDilation),
    ("doppler_shift", panel.flag .dopplerShift),
    ("aberration", panel.flag .aberration),
    ("beaming", panel.flag .beaming),
    ("accretion_disk", panel.flag .accretionDisk)]

/-- The scalars that a stencil can refer to, by name. -/
def stencilScalars (panel : Panel α) :
    Except (Fault α) (List (String × Nat)) := do
  return [("n_steps", ← panel.steps)]

/-- The bindings that a panel gives to a stencil. -/
def bindings (panel : Panel α) : Except (Fault α) Bindings := do
  let scalars ← panel.stencilScalars
  return .ofLists
    (panel.stencilFlags.map fun (name, value) => (name, value.isTruthy))
    (scalars.map fun (name, count) => (name, toString count))

end Panel

/-- The program text that a stencil gives for a panel. -/
def Stencil.compile
    (stencil : Stencil)
    (panel : Panel α) : Except (Fault α) String := do
  return stencil.render (← panel.bindings)

/-- A stencil with the program text made from it last. -/
structure Program where
  stencil : Stencil
  text? : Option String := none
  /-- The text does not follow the panel any more. -/
  isStale : Bool := true
  /-- How often a text was made. -/
  timesCompiled : Nat := 0

namespace Program

/-- The program of a text with tags in it. -/
def ofString (text : String) : Program where
  stencil := .ofString text

/-- Take the text for stale. -/
def markStale (program : Program) : Program := { program with isStale := true }

/-- Make a new text if the old one is stale. The result is the new text, or
`none` when there was no need. -/
def renew
    (program : Program)
    (panel : Panel α) : Outcome α Program (Option String) :=
  if !program.isStale && program.text?.isSome then .done program none
  else
    match program.stencil.compile panel with
    | .error fault => .stopped program fault
    | .ok text =>
        let number := program.timesCompiled + 1
        { result := .ok (some text)
          state :=
            { program with
              text? := some text, isStale := false, timesCompiled := number }
          log := [.compiled number text panel.quality panel.stencilFlags] }

/-- The program text, made first if it is stale. -/
def fetch (program : Program) (panel : Panel α) : Outcome α Program String :=
  (program.renew panel).andThen fun renewed fresh? =>
    .done renewed ((fresh?.or renewed.text?).getD "")

end Program

end BlackHoleScene
