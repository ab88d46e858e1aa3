import BlackHoleScene.Fault.Basic
import BlackHoleScene.Value.Written

/-!
# Messages

The wording of every fault that has one, for values that are writable. Faults of
arithmetic, of array shapes and of kinds that only say that something went wrong
have none.
-/

namespace BlackHoleScene

/-- The message of a domain fault. -/
def DomainFault.message : DomainFault Float → String
  | .insideHorizon radius =>
      s!"observer radius {radius.written} " ++
        "is at or inside the horizon (r <= 1.0)"
  | .notBelowLightSpeed speed _ =>
      s!"speed {speed.written} is not below light speed"
  | .noTimelikeOrbit radius speed =>
      s!"no timelike circular orbit at r={Decimal.shortest radius} " ++
        s!"(speed {Decimal.fixed 6 speed} >= 1)"
  | .negativeElapsed elapsed =>
      s!"elapsed time must be >= 0, got {elapsed.written}"

/-- The message of a degeneracy. -/
def Degeneracy.message (cause : Degeneracy Float) : String :=
  s!"cannot normalize {cause.subject}: length {Decimal.shortest cause.length}"

/-- The message of a control fault. -/
def ControlFault.message : ControlFault Float → String
  | .unknownPath path => s!"unknown parameter {(Value.text path).written}"
  | .qualityNotText value => s!"quality expects a string, got {value.written}"
  | .unknownQuality value =>
      let tiers : Value Float :=
        .list (Quality.all.map fun quality => .text quality.name)
      s!"unknown quality {value.written}, expected one of {tiers.written}"
  | .notTruth flag value => s!"{flag.path} expects a bool, got {value.written}"
  | .notNumber quantity value =>
      s!"{quantity.path} expects a number, got {value.written}"
  | .notFinite quantity value =>
      s!"{quantity.path} must be finite, got {value.written}"
  | .negativeTimeScale x =>
      s!"time_scale must be >= 0, got {Decimal.shortest x}"
  | .distanceTooSmall x =>
      "observer.distance must be > 1.5 (timelike circular orbit), " ++
        s!"got {Decimal.shortest x}"
  | .notPositive quantity x =>
      s!"{quantity.path} must be > 0, got {Decimal.shortest x}"

/-- The message of a setting fault. -/
def SettingFault.message : SettingFault Float → String
  | .useCudaNotBoolean raw =>
      s!"HORIZONVIEW_USE_CUDA must be a boolean, got {(Value.text raw).written}"
  | .cameraEpsNotNumber raw =>
      "HORIZONVIEW_CAMERA_EPS must be a number, " ++
        s!"got {(Value.text raw).written}"
  | .cameraEpsNegative eps =>
      s!"HORIZONVIEW_CAMERA_EPS must be >= 0, got {Decimal.shortest eps}"
  | .logLevelUnknown name =>
      "HORIZONVIEW_LOG_LEVEL is not a logging level: " ++
        (Value.text name).written

/-- The shape of an array, in parentheses; a single length keeps a comma. -/
def shapeText : List Nat → String
  | [length] => s!"({length},)"
  | shape => "(" ++ ", ".intercalate (shape.map toString) ++ ")"

/-- The message of a fault, if it has one. -/
def Fault.message? : Fault Float → Option String
  | .domain cause => some cause.message
  | .degenerate cause => some cause.message
  | .control cause => some cause.message
  | .setting cause => some cause.message
  | .arithmetic _ => none
  | .shape .mismatch => none
  | .shape (.notTransform lengths) =>
      some s!"expected a 4x4 camera transform, got shape {shapeText lengths}"
  | .chart .noSamples => some "samples is empty"
  | .chart .noLimits => none
  | .unsuitable => none
  | .unknownLevel name => some s!"Unknown level: {(Value.text name).written}"

end BlackHoleScene
