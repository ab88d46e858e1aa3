import BlackHoleScene.Proofs.Decimal.Numeral
import BlackHoleScene.Session.Basic

/-!
# Settings from the environment

Settings are refused with a fault of their own, or they say what the environment
asks for: the graphics card for a word for yes and for nothing else, and a level
that the log can be set up with. The threshold of the camera is never below
zero, but it need not be from zero on. It is undefined exactly where its
variable spells what is not a number, and then no view differs from that of the
last frame: `Settings.ofEnvironment_refused_or_says`.
-/

namespace BlackHoleScene

open Scalar (IsUndefined)

/-- Below an undefined threshold, no view differs from that of the last frame.
-/
theorem Session.viewDiffers_ne_true
    {session : Session Float}
    (undefined : IsUndefined session.settings.cameraEps)
    (later : session.lastView?.isSome = true)
    (view : Grid Float) :
    session.viewDiffers view ≠ .ok true := by
  obtain ⟨last, remembered⟩ := Option.isSome_iff_exists.1 later
  have never (distance : Float) : ¬session.settings.cameraEps < distance :=
    Double.not_lt_of_isUndefined undefined
  unfold viewDiffers
  rw [remembered]
  dsimp only
  cases Grid.distance view last.toGrid <;> simp [Except.map, never]

namespace Settings

/-! ### Reading one after the other -/

/-- What is acceptable is read, as a value with a property. Anything else is
refused with a fault of settings. -/
def Reads
    {β : Type}
    (acceptable : Prop)
    (property : β → Prop)
    (result : Except (Fault Float) β) : Prop :=
  (¬acceptable ∧ ∃ cause, result = .error (.setting cause)) ∨
    (acceptable ∧ ∃ value, result = .ok value ∧ property value)

/-- What is read in two parts is acceptable if both parts are. -/
theorem Reads.bind
    {β γ : Type}
    {acceptable acceptableToo : Prop}
    {property : β → Prop}
    {propertyToo : γ → Prop}
    {first : Except (Fault Float) β}
    {next : β → Except (Fault Float) γ}
    (reads : Reads acceptable property first)
    (readsToo :
      ∀ value,
        property value → Reads acceptableToo propertyToo (next value)) :
    Reads (acceptable ∧ acceptableToo) propertyToo (first >>= next) := by
  rcases reads with ⟨unacceptable, cause, rfl⟩ |
    ⟨accepted, value, rfl, holds⟩
  · exact .inl ⟨fun both => unacceptable both.1, cause, rfl⟩
  · rcases readsToo value holds with ⟨unacceptable, refused⟩ |
      ⟨acceptedToo, read⟩
    · exact .inl ⟨fun both => unacceptable both.2, refused⟩
    · exact .inr ⟨⟨accepted, acceptedToo⟩, read⟩

/-- What is computed from something that was read is acceptable if that is. -/
theorem Reads.pure
    {β γ : Type}
    {acceptable : Prop}
    {property : β → Prop}
    {propertyToo : γ → Prop}
    {first : Except (Fault Float) β}
    {f : β → γ}
    (reads : Reads acceptable property first)
    (kept : ∀ value, property value → propertyToo (f value)) :
    Reads acceptable propertyToo
      (first >>= fun value => Pure.pure (f value)) := by
  rcases reads with ⟨unacceptable, cause, rfl⟩ |
    ⟨accepted, value, rfl, holds⟩
  · exact .inl ⟨unacceptable, cause, rfl⟩
  · exact .inr ⟨accepted, f value, rfl, kept value holds⟩

/-- Read a variable, if it is set. -/
def readOr
    {β : Type}
    (standard : β)
    (read : String → Except (Fault Float) β)
    (held? : Option String) : Except (Fault Float) β :=
  match held? with
  | some raw => read raw
  | none => .ok standard

/-- The variables are read one after the other. -/
theorem ofEnvironment_eq (lookup : String → Option String) :
    ofEnvironment lookup = do
      let standard : Settings Float := initial
      let useCuda ←
        readOr standard.useCuda readUseCuda (lookup "HORIZONVIEW_USE_CUDA")
      let cameraEps ←
        readOr standard.cameraEps readCameraEps
          (lookup "HORIZONVIEW_CAMERA_EPS")
      let logLevel ←
        readLogLevel ((lookup "HORIZONVIEW_LOG_LEVEL").getD standard.logLevel)
      return { useCuda, cameraEps, logLevel } := by
  unfold ofEnvironment readOr
  cases lookup "HORIZONVIEW_USE_CUDA" <;>
    cases lookup "HORIZONVIEW_CAMERA_EPS" <;> dsimp only

/-- The threshold is what its variable holds, or the standard one. It is not
below zero, and from zero on unless the variable spells what is not a number. -/
structure IsThreshold (held? : Option String) (eps : Float) : Prop where
  read : ∀ raw, held? = some raw → Decimal.read? raw.toList = some eps
  standard : held? = none → eps = 1e-10
  notNegative : ¬eps < 0.0
  zero_le_iff :
    0.0 ≤ eps ↔ ∀ raw, held? = some raw → ¬Decimal.SpellsNan raw.toList

/-- The level is what its variable names, or the standard one, and the log can
be set up with it. -/
structure IsLevel (held? : Option String) (name : String) : Prop where
  read : name = capitalTrimmed (held?.getD "WARNING")
  accepted : ∃ setup, LogSetup.ofLevel (.text name : Value Float) = .ok setup

section Variables

variable (held? : Option String)

/-- The graphics card is asked for by a word for yes, and by nothing else. -/
theorem reads_useCuda :
    Reads
      (∀ raw,
        held? = some raw → smallTrimmed raw ∈ affirmative ++ negative)
      (fun choice =>
        choice = true ↔
          ∃ raw, held? = some raw ∧ smallTrimmed raw ∈ affirmative)
      (readOr (initial : Settings Float).useCuda readUseCuda held?) := by
  cases held? with
  | none => exact .inr ⟨nofun, false, rfl, by simp⟩
  | some raw =>
      simp only [readOr, Option.some.injEq, forall_eq', exists_eq_left']
      unfold readUseCuda
      dsimp only
      split_ifs with yes no
      · rw [List.contains_iff_mem] at yes
        exact .inr
          ⟨List.mem_append_left _ yes, true, rfl, iff_of_true rfl yes⟩
      · rw [List.contains_iff_mem] at yes no
        exact .inr
          ⟨List.mem_append_right _ no, false, rfl,
            iff_of_false Bool.false_ne_true yes⟩
      · rw [List.contains_iff_mem] at yes no
        exact .inl
          ⟨fun word => (List.mem_append.1 word).elim yes no, _, rfl⟩

theorem reads_cameraEps :
    Reads
      (∀ raw,
        held? = some raw → ∃ eps, Decimal.read? raw.toList = some eps ∧
          ¬eps < 0.0)
      (IsThreshold held?)
        (readOr (initial : Settings Float).cameraEps readCameraEps held?) := by
  cases held? with
  | none =>
      have nonneg : (0.0 : Float) ≤ (initial : Settings Float).cameraEps := by
        decide +kernel
      refine .inr ⟨nofun, _, rfl, ?_⟩
      exact
        { read := nofun
          standard := fun _ => rfl
          notNegative := (Double.zero_le_iff_not_lt.1 nonneg).1
          zero_le_iff := iff_of_true nonneg nofun }
  | some raw =>
      have reader :
          (Scalar.ofNumeral? raw.toList : Option Float) =
            Decimal.read? raw.toList := rfl
      simp only [readOr, Option.some.injEq, forall_eq']
      unfold readCameraEps
      rw [reader]
      cases read : Decimal.read? raw.toList with
      | none => exact .inl ⟨by simp, _, rfl⟩
      | some eps =>
          dsimp only
          split_ifs with below
          · exact .inl ⟨by simpa using below, _, rfl⟩
          · refine .inr ⟨⟨eps, rfl, below⟩, eps, rfl, ?_⟩
            exact
              { read := by simpa using read
                standard := nofun
                notNegative := below
                zero_le_iff := by
                  rw [Double.zero_le_iff_not_lt,
                    Decimal.isUndefined_of_read?_iff read]
                  simp [below] }

theorem reads_logLevel :
    Reads
      (∀ raw,
        held? = some raw →
          (logLevels.lookup (capitalTrimmed raw)).isSome = true)
      (IsLevel held?)
        (readLogLevel (held?.getD (initial : Settings Float).logLevel)) := by
  have standard :
      (logLevels.lookup (capitalTrimmed "WARNING")).isSome = true := by
    decide +kernel
  unfold readLogLevel
  dsimp only
  split_ifs with known
  · obtain ⟨level, found⟩ := Option.isSome_iff_exists.1 known
    refine .inr ⟨?_, _, rfl, rfl, { level }, ?_⟩
    · rintro raw rfl
      exact known
    · simp only [LogSetup.ofLevel, found]
  · refine .inl ⟨fun takes => ?_, _, rfl⟩
    cases held? with
    | none => exact known standard
    | some raw => exact known (takes raw rfl)

end Variables

/-! ### The settings of an environment -/

/-- Every variable that is set holds something that its setting takes. -/
@[mk_iff]
structure Acceptable (lookup : String → Option String) : Prop where
  useCuda :
    ∀ raw,
      lookup "HORIZONVIEW_USE_CUDA" = some raw →
        smallTrimmed raw ∈ affirmative ++ negative
  cameraEps :
    ∀ raw, lookup "HORIZONVIEW_CAMERA_EPS" = some raw →
      ∃ eps, Decimal.read? raw.toList = some eps ∧ ¬eps < 0.0
  logLevel :
    ∀ raw, lookup "HORIZONVIEW_LOG_LEVEL" = some raw →
      (logLevels.lookup (capitalTrimmed raw)).isSome = true

/-- The settings say what the environment asks for. -/
structure Says
    (settings : Settings Float)
    (lookup : String → Option String) : Prop where
  useCuda :
    settings.useCuda = true ↔
      ∃ raw, lookup "HORIZONVIEW_USE_CUDA" = some raw ∧
        smallTrimmed raw ∈ ["1", "true", "yes", "on"]
  logLevel : IsLevel (lookup "HORIZONVIEW_LOG_LEVEL") settings.logLevel
  cameraEps : IsThreshold (lookup "HORIZONVIEW_CAMERA_EPS") settings.cameraEps
  /-- A threshold that is not from zero on keeps all views after the first from
  differing. -/
  stuck :
    ¬0.0 ≤ settings.cameraEps →
      ∀ session : Session Float, session.settings = settings →
        session.lastView?.isSome = true →
          ∀ view, session.viewDiffers view ≠ .ok true

/-- Settings are read from exactly the environments that are acceptable, and say
what these ask for; the others are refused with a fault of settings. -/
theorem ofEnvironment_refused_or_says (lookup : String → Option String) :
    (¬Acceptable lookup ∧
        ∃ cause,
          (ofEnvironment lookup : Except (Fault Float) _) =
            .error (.setting cause)) ∨
      (Acceptable lookup ∧
        ∃ settings : Settings Float,
          ofEnvironment lookup = .ok settings ∧ settings.Says lookup) := by
  change Reads (Acceptable lookup) (fun settings => settings.Says lookup)
    (ofEnvironment lookup)
  rw [acceptable_iff, ofEnvironment_eq]
  refine (reads_useCuda (lookup "HORIZONVIEW_USE_CUDA")).bind
    fun useCuda asked => ?_
  refine (reads_cameraEps (lookup "HORIZONVIEW_CAMERA_EPS")).bind
    fun cameraEps threshold => ?_
  refine (reads_logLevel (lookup "HORIZONVIEW_LOG_LEVEL")).pure
    fun logLevel level => ?_
  exact
    { useCuda := asked
      logLevel := level
      cameraEps := threshold
      stuck := by
        intro low session same later view
        have undefined : IsUndefined cameraEps := by
          rw [Double.zero_le_iff_not_lt, not_and, not_not] at low
          exact low threshold.notNegative
        exact session.viewDiffers_ne_true (same ▸ undefined) later view }

/-- What is not a number is taken for a threshold. -/
theorem ofEnvironment_takes_nan :
    let lookup : String → Option String := fun name =>
      if name = "HORIZONVIEW_CAMERA_EPS" then some "nan" else none
    ∃ settings : Settings Float,
      ofEnvironment lookup = .ok settings ∧ ¬0.0 ≤ settings.cameraEps :=
  ⟨{ initial with cameraEps := 0.0 / 0.0 }, rfl, by decide +kernel⟩

end Settings

end BlackHoleScene
