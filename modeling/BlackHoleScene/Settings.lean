import BlackHoleScene.Fault.Basic
import BlackHoleScene.Text.Blank
import BlackHoleScene.Text.LetterCase

/-!
# Settings

Settings of a session that come from outside the program, read from environment
variables. Values that no setting takes are refused, each with a fault of its
own.
-/

namespace BlackHoleScene

/-- Threshold of the log: the names of levels with their numbers. -/
def logLevels : List (String × Int) :=
  [("CRITICAL", 50), ("FATAL", 50), ("ERROR", 40), ("WARN", 30),
    ("WARNING", 30), ("INFO", 20), ("DEBUG", 10), ("NOTSET", 0)]

/-- Settings of a session. -/
structure Settings (α : Type) where
  /-- Ask for the graphics card. -/
  useCuda : Bool
  /-- Distance of two views above which the camera has moved. -/
  cameraEps : α
  /-- Name of the log level. -/
  logLevel : String

namespace Settings

variable {α : Type} [Scalar α]

/-- The settings when nothing is said. -/
def initial : Settings α where
  useCuda := false
  cameraEps := 1e-10
  logLevel := "WARNING"

/-- Words for yes. -/
def affirmative : List String := ["1", "true", "yes", "on"]

/-- Words for no, and nothing at all. -/
def negative : List String := ["0", "false", "no", "off", ""]

/-- Trimmed text in small letters. -/
def smallTrimmed (raw : String) : String :=
  String.ofList (Text.lowerCase.mapText (Text.trim raw.toList))

/-- Trimmed text in capital letters. -/
def capitalTrimmed (raw : String) : String :=
  String.ofList (Text.upperCase.mapText (Text.trim raw.toList))

/-- Read a choice of yes or no. -/
def readUseCuda (raw : String) : Except (Fault α) Bool :=
  let word := smallTrimmed raw
  if affirmative.contains word then .ok true
  else if negative.contains word then .ok false
  else .error (.setting (.useCudaNotBoolean raw))

/-- Read a threshold, which must not be negative. -/
def readCameraEps (raw : String) : Except (Fault α) α :=
  match Scalar.ofNumeral? raw.toList with
  | none => .error (.setting (.cameraEpsNotNumber raw))
  | some eps =>
      if eps < 0.0 then .error (.setting (.cameraEpsNegative eps)) else .ok eps

/-- Read the name of a log level. -/
def readLogLevel (raw : String) : Except (Fault α) String :=
  let name := capitalTrimmed raw
  if (logLevels.lookup name).isSome then .ok name
  else .error (.setting (.logLevelUnknown name))

/-- Read the settings from environment variables; one that is not set leaves its
setting as it is. -/
def ofEnvironment (lookup : String → Option String) :
    Except (Fault α) (Settings α) := do
  let standard : Settings α := initial
  let useCuda ←
    match lookup "HORIZONVIEW_USE_CUDA" with
    | some raw => readUseCuda raw
    | none => .ok standard.useCuda
  let cameraEps ←
    match lookup "HORIZONVIEW_CAMERA_EPS" with
    | some raw => readCameraEps raw
    | none => .ok standard.cameraEps
  let logLevel ←
    readLogLevel ((lookup "HORIZONVIEW_LOG_LEVEL").getD standard.logLevel)
  return { useCuda, cameraEps, logLevel }

end Settings

/-- How the log is written: its threshold, and the layout of a line. -/
structure LogSetup where
  level : Int
  /-- Number of places that the log is written to. -/
  handlers : Nat := 1
  lineLayout : String := "%(asctime)s %(levelname)s %(name)s: %(message)s"

namespace LogSetup

/-- Threshold of a log that was never set up. -/
def untouchedLevel : Int := 30

/-- Set up the log at a level given by name or number. -/
def ofLevel {α : Type} (level : Value α) : Except (Fault α) LogSetup :=
  match level with
  | .none => .ok { level := untouchedLevel }
  | .number (.whole n) => .ok { level := n }
  | .number (.truth holds) => .ok { level := if holds then 1 else 0 }
  | .text name =>
      match logLevels.lookup name with
      | some n => .ok { level := n }
      | none => .error (.unknownLevel name)
  | _ => .error .unsuitable

/-- The level of a log that is set up without saying one. -/
def standardLevel {α : Type} : Value α := .text "WARNING"

end LogSetup

end BlackHoleScene
