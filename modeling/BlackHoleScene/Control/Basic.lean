/-!
# Controls

The scene is steered by controls: a quality tier, flags that switch physical
effects and parts of the scene on and off, and quantities. Each control has a
path by which input handlers name it. The tier and the flags decide the text of
the shader program; the quantities only reach it as data.
-/

namespace BlackHoleScene

/-- Rendering effort. -/
inductive Quality
  | fast
  | medium
  | high
  deriving DecidableEq

namespace Quality

/-- The name of a tier. -/
def name : Quality → String
  | .fast => "fast"
  | .medium => "medium"
  | .high => "high"

/-- Ray-marching steps of a tier. -/
def steps : Quality → Nat
  | .fast => 40
  | .medium => 100
  | .high => 200

/-- All tiers, by name. -/
def all : List Quality := [.fast, .high, .medium]

/-- The tier of a name. -/
def ofName? (name : String) : Option Quality :=
  all.find? fun quality => quality.name == name

@[simp] theorem ofName?_name (quality : Quality) :
    ofName? quality.name = some quality := by
  cases quality <;> decide

end Quality

/-- A switch. -/
inductive Flag
  | accretionDisk
  | lorentzContraction
  | gravitationalTimeDilation
  | aberration
  | beaming
  | dopplerShift
  | lightTravelTime
  | planetEnabled
  | observerMotion
  deriving DecidableEq

namespace Flag

/-- The path of a flag. -/
def path : Flag → String
  | .accretionDisk => "accretion_disk"
  | .lorentzContraction => "lorentz_contraction"
  | .gravitationalTimeDilation => "gravitational_time_dilation"
  | .aberration => "aberration"
  | .beaming => "beaming"
  | .dopplerShift => "doppler_shift"
  | .lightTravelTime => "light_travel_time"
  | .planetEnabled => "planet.enabled"
  | .observerMotion => "observer.motion"

/-- All flags. -/
def all : List Flag :=
  [.accretionDisk, .lorentzContraction, .gravitationalTimeDilation, .aberration,
    .beaming, .dopplerShift, .lightTravelTime, .planetEnabled, .observerMotion]

end Flag

/-- A number that can be set. -/
inductive Quantity
  /-- Seconds of coordinate time per second of wall-clock time. -/
  | timeScale
  | planetDistance
  | planetRadius
  /-- Radius of the observer's orbit, or of the camera's position. -/
  | observerDistance
  /-- Tilt of the orbital plane, in degrees. -/
  | orbitalInclination
  deriving DecidableEq

namespace Quantity

/-- The path of a quantity. -/
def path : Quantity → String
  | .timeScale => "time_scale"
  | .planetDistance => "planet.distance"
  | .planetRadius => "planet.radius"
  | .observerDistance => "observer.distance"
  | .orbitalInclination => "observer.orbital_inclination"

/-- All quantities. -/
def all : List Quantity :=
  [.timeScale, .planetDistance, .planetRadius, .observerDistance,
    .orbitalInclination]

end Quantity

/-- Something about the scene that can be set. -/
inductive Control
  | quality
  | flag (which : Flag)
  | quantity (which : Quantity)
  deriving DecidableEq

namespace Control

/-- The path of a control. -/
def path : Control → String
  | .quality => "quality"
  | .flag which => which.path
  | .quantity which => which.path

/-- All controls. -/
def all : List Control :=
  .quality :: (Flag.all.map .flag ++ Quantity.all.map .quantity)

/-- The control of a path. -/
def ofPath? (path : String) : Option Control :=
  all.find? fun control => control.path == path

/-- The control decides the text of the shader program. -/
def decidesProgram : Control → Bool
  | .quality => true
  | .flag _ => true
  | .quantity _ => false

@[simp] theorem ofPath?_path (control : Control) :
    ofPath? control.path = some control := by
  cases control with
  | quality => decide
  | flag which => cases which <;> decide
  | quantity which => cases which <;> decide

end Control

end BlackHoleScene
