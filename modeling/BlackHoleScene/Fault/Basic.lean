import BlackHoleScene.Control.Basic
import BlackHoleScene.Value.Basic

/-!
# Faults

Why an operation did not give a result, by cause. Each cause carries the values
that were found at fault, as they were supplied.
-/

namespace BlackHoleScene

/-- The observer would be where, or as fast as, no observer can be. -/
inductive DomainFault (α : Type)
  | insideHorizon (radius : Number α)
  | notBelowLightSpeed (speed radius : Number α)
  | noTimelikeOrbit (radius speed : α)
  | negativeElapsed (elapsed : Number α)

/-- The radius at which the fault lies, if it lies at one. -/
def DomainFault.radius? {α : Type} : DomainFault α → Option (Number α)
  | .insideHorizon radius => some radius
  | .notBelowLightSpeed _ radius => some radius
  | .noTimelikeOrbit radius _ => some (.real radius)
  | .negativeElapsed _ => none

/-- A direction was asked of a vector whose length allows none. -/
structure Degeneracy (α : Type) where
  /-- What the vector was to become. -/
  subject : String
  length : α

/-- A control was given a value that it does not take. -/
inductive ControlFault (α : Type)
  | unknownPath (path : String)
  | qualityNotText (value : Value α)
  | unknownQuality (value : Value α)
  | notTruth (flag : Flag) (value : Value α)
  | notNumber (quantity : Quantity) (value : Value α)
  | notFinite (quantity : Quantity) (value : Value α)
  | negativeTimeScale (x : α)
  | distanceTooSmall (x : α)
  | notPositive (quantity : Quantity) (x : α)

/-- An environment variable holds what its setting does not take. -/
inductive SettingFault (α : Type)
  | useCudaNotBoolean (raw : String)
  | cameraEpsNotNumber (raw : String)
  | cameraEpsNegative (eps : α)
  | logLevelUnknown (name : String)

/-- An elementary operation has no result. -/
inductive ArithmeticFault
  /-- An integer is beyond all scalars. -/
  | overflow
  | divisionByZero
  /-- The root of a negative number, or the sine or cosine of an infinite one.
  -/
  | outsideDomain
  /-- A text is no numeral of a scalar, or an integer is too long for one. -/
  | notNumeral
  deriving DecidableEq

/-- Nested arrays do not have the form they should. -/
inductive ShapeFault
  /-- Rows of different lengths, or arrays that do not fit together. -/
  | mismatch
  | notTransform (shape : List Nat)
  deriving DecidableEq

/-- A chart cannot be drawn. -/
inductive ChartFault
  | noSamples
  /-- The path gives no limits that an axis can show. -/
  | noLimits
  deriving DecidableEq

/-- Why an operation gave no result. -/
inductive Fault (α : Type)
  | domain (cause : DomainFault α)
  | degenerate (cause : Degeneracy α)
  | control (cause : ControlFault α)
  | setting (cause : SettingFault α)
  | arithmetic (cause : ArithmeticFault)
  | shape (cause : ShapeFault)
  | chart (cause : ChartFault)
  /-- A value is of a kind that the operation cannot take. -/
  | unsuitable
  | unknownLevel (name : String)

end BlackHoleScene
