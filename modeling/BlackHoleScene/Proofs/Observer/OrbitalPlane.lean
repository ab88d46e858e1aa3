import BlackHoleScene.Proofs.Observer.OrbitalFrame
import BlackHoleScene.Proofs.Observer.Rejection

/-!
# The plane of an orbit

Over the real numbers, an advance beyond radius one and a half puts an observer
on a circle in the plane that the inclination gives, whatever it did before. The
vector product of its position and its velocity is the same every time, so it
stays in that plane and goes round in the same sense for any number of frames:
`Observer.orbits_afterFrames`. Position and velocity stand at right angles and
the circle is large, so the frame that follows the motion fails only for a speed
that counts for none.
-/

namespace BlackHoleScene

namespace Camera

variable {position velocity : Vec3 ℝ} (right : position.dot velocity = 0)
include right

/-- Inward and along a motion at right angles, the square of the weight and that
of the distance add up. -/
theorem inward_dot_self (moves : 0 < velocity.norm) :
    (inward position velocity).dot (inward position velocity) =
      16 + position.norm ^ 2 := by
  have along : velocity.dot velocity = velocity.norm ^ 2 :=
    velocity.norm_sq.symm
  have expanded :
      (inward position velocity).dot (inward position velocity) =
        (4 / velocity.norm) ^ 2 * velocity.dot velocity -
          2 * (4 / velocity.norm) * position.dot velocity +
            position.dot position := by
    cases position
    cases velocity
    simp only [inward, Vec3.scale_mk, Vec3.mk_sub_mk, Vec3.dot_mk]
    ring
  rw [expanded, right, along, position.norm_sq]
  field_simp
  ring

/-- Out of the plane of a motion at right angles, the length depends on the
distance alone. -/
theorem outOfPlane_dot_self (moves : 0 < velocity.norm) :
    (outOfPlane position velocity).dot (outOfPlane position velocity) =
      16 * position.norm ^ 2 / (16 + position.norm ^ 2) := by
  have points : 0 < 16 + position.norm ^ 2 := by positivity
  rw [outOfPlane_eq, Vec3.dot_self_scale, Vec3.cross_dot_self, right, mul_pow,
    inv_pow, Vec3.norm_sq (inward position velocity),
    inward_dot_self right moves, ← position.norm_sq, ← velocity.norm_sq]
  field_simp
  ring

/-- On a circle beyond radius one and a half, the frame that follows the motion
is there as soon as the speed counts. -/
theorem directed_iff_of_right (far : 3 / 2 < position.norm) :
    Directed position velocity ↔ Direction.leastLength < velocity.norm := by
  refine ⟨fun directed => directed.moves, fun moves => ?_⟩
  have positive : 0 < velocity.norm := Vec3.leastLength_nonneg.trans_lt moves
  have short : (Direction.leastLength : ℝ) < 1 := by
    norm_num [Direction.leastLength]
  have square : (3 / 2) ^ 2 < position.norm ^ 2 := by gcongr
  have long {v : Vec3 ℝ} (more : 1 < v.dot v) :
      Direction.leastLength < v.norm := by
    refine short.trans ?_
    rw [Vec3.norm_real, Real.lt_sqrt zero_le_one]
    linarith
  refine ⟨moves, long ?points, long ?spans⟩
  case points =>
    rw [inward_dot_self right positive]
    linarith
  case spans =>
    have points : 0 < 16 + position.norm ^ 2 := by positivity
    rw [outOfPlane_dot_self right positive, lt_div_iff₀ points]
    linarith

end Camera

/-- The vector product on a circular orbit is along the normal of its plane. -/
theorem Orbit.cross_onCircle
    {tilt : Mat3 ℝ}
    (rotation : tilt.Rotation)
    (radius phase : ℝ) :
    (onCircle radius phase tilt).position.cross
      (onCircle radius phase tilt).velocity =
      (tilt.apply ⟨0, 0, 1⟩).scale (radius * orbitSpeed radius) := by
  rw [onCircle, rotation.cross_apply, ← Mat3.apply_scale]
  congr 1
  simp only [Vec3.cross_mk, Vec3.scale_mk, Vec3.mk.injEq]
  refine ⟨by ring, by ring, ?_⟩
  linear_combination radius * orbitSpeed radius * Real.cos_sq_add_sin_sq phase

namespace Observer

open Orbit

/-- The observer is on a circular orbit of a radius, in the plane with a normal.
-/
structure Orbits
    (observer : Observer ℝ)
    (radius : ℝ)
    (normal : Vec3 ℝ) : Prop where
  distance : observer.position.norm = radius
  speed : observer.velocity.norm = 1 / √(2 * (radius - 1))
  slow : observer.velocity.norm < 1
  right : observer.position.dot observer.velocity = 0
  inPlane : observer.position.dot normal = 0
  turning :
    observer.position.cross observer.velocity =
      normal.scale (radius * observer.velocity.norm)
  /-- Seen along the normal, the observer goes round in the positive sense. -/
  sense : 0 < normal.dot (observer.position.cross observer.velocity)
  /-- There is a frame that follows the motion exactly if the speed counts. -/
  framed :
    (∃ frame,
      Camera.orbitBasis observer.position observer.velocity = .ok frame) ↔
      Direction.leastLength < observer.velocity.norm

/-- On a circle beyond radius one and a half, an observer is on its orbit. -/
theorem orbits_of_onCircle
    {observer : Observer ℝ}
    {tilt : Mat3 ℝ}
    {radius phase : ℝ}
    (rotation : tilt.Rotation)
    (beyond : 3 / 2 < radius)
    (position : observer.position = (onCircle radius phase tilt).position)
    (velocity : observer.velocity = (onCircle radius phase tilt).velocity) :
    observer.Orbits radius (tilt.apply ⟨0, 0, 1⟩) := by
  have outside : 1 < radius := by linarith
  have orthonormal := rotation.orthonormal
  have speed : observer.velocity.norm = orbitSpeed radius := by
    rw [velocity, norm_velocity_onCircle outside orthonormal]
  have distance : observer.position.norm = radius := by
    rw [position, norm_position_onCircle (by linarith) orthonormal]
  have right : observer.position.dot observer.velocity = 0 := by
    rw [position, velocity, dot_onCircle orthonormal]
  have turning :
      observer.position.cross observer.velocity =
        (tilt.apply ⟨0, 0, 1⟩).scale (radius * observer.velocity.norm) := by
    rw [speed, position, velocity, cross_onCircle rotation]
  have far : 3 / 2 < observer.position.norm := beyond.trans_eq distance.symm
  refine ⟨distance, speed, ?slow, right, ?inPlane, turning, ?sense, ?framed⟩
  case slow => exact speed ▸ (orbitSpeed_lt_one_iff outside).2 beyond
  case inPlane =>
    rw [position, onCircle, orthonormal.dot_apply]
    simp
  case sense =>
    have positive :=
      mul_pos (zero_lt_one.trans outside) (orbitSpeed_pos outside)
    rw [turning, Vec3.dot_comm, Vec3.scale_dot, orthonormal.dot_apply, speed]
    simpa using positive
  case framed =>
    rw [← Camera.directed_iff_of_right right far]
    simp only [Camera.orbitBasis_eq_ok_iff, exists_and_left, exists_eq,
      and_true]

/-- The observer after frames, in each of which time passes and the camera then
turns to a view. -/
def afterFrames
    {α : Type}
    [Scalar α]
    (observer : Observer α)
    (panel : Panel α)
    (frames : List (Number α × Transform α)) : Observer α :=
  frames.foldl
    (fun reached frame =>
      ((reached.advance (.number frame.1) panel).state.turnTo frame.2
        panel).state)
    observer

section Moving

variable {panel : Panel ℝ} (moving : panel.isOn .observerMotion = true)
include moving

/-- On its orbit, an observer that turns its camera stays where it is and moves
on as it did. -/
theorem Orbits.turnTo
    {observer : Observer ℝ}
    {radius : ℝ}
    {normal : Vec3 ℝ}
    (orbits : observer.Orbits radius normal)
    (view : Transform ℝ) :
    (observer.turnTo view panel).state.Orbits radius normal := by
  cases framed : Camera.orbitBasis observer.position observer.velocity with
  | error fault =>
      rw [turnTo_of_orbitBasis_error moving framed]
      exact orbits
  | ok frame =>
      rw [turnTo_of_orbitBasis_ok moving framed]
      exact
        { distance := orbits.distance
          speed := orbits.speed
          slow := orbits.slow
          right := orbits.right
          inPlane := orbits.inPlane
          turning := orbits.turning
          sense := orbits.sense
          framed := orbits.framed }

variable
  {distance scale degrees : Number ℝ}
  (placed : panel.quantity .observerDistance = .number distance)
  (scaled : panel.quantity .timeScale = .number scale)
  (inclined : panel.quantity .orbitalInclination = .number degrees)
  (beyond : 3 / 2 < distance.value)
include placed scaled inclined beyond

/-- Forward in time, an observer moves on to its orbit, wherever it was before.
-/
theorem orbits_advance
    (observer : Observer ℝ)
    {seconds : Number ℝ}
    (forward : 0 ≤ seconds.value) :
    (∃ step, (observer.advance (.number seconds) panel).result = .ok step) ∧
      (observer.advance (.number seconds) panel).state.Orbits distance.value
        ((Mat3.tiltY degrees.value).apply ⟨0, 0, 1⟩) := by
  have accepted :
      ¬Rejected seconds.value (panel.isOn .observerMotion) distance.value
        observer.position := by
    simp [Rejected, Scalar.oneAndHalf_real, moving, forward, beyond]
  obtain ⟨_, _, step, moved, _, followed⟩ :=
    exists_step_of_not_rejected placed scaled inclined accepted
  refine ⟨⟨step, moved⟩, ?_⟩
  rw [followed, moving]
  exact orbits_of_onCircle (Mat3.rotation_tiltY degrees.value) beyond rfl rfl

/-- Beyond radius one and a half, every advance forward in time puts the
observer on the orbit around the tilted third axis. So it is on this orbit after
any number of frames. -/
theorem orbits_afterFrames :
    ∃ tilt,
      (Mat3.rotationY degrees : Except (Fault ℝ) (Mat3 ℝ)) = .ok tilt ∧
      let normal := tilt.apply ⟨0, 0, 1⟩
      (∀ (observer : Observer ℝ) (seconds : Number ℝ),
        0 ≤ seconds.value →
        (∃ step,
          (observer.advance (.number seconds) panel).result = .ok step) ∧
          (observer.advance (.number seconds) panel).state.Orbits distance.value
            normal) ∧
      ∀ (observer : Observer ℝ)
        (frames : List (Number ℝ × Transform ℝ)),
        frames ≠ [] → (∀ frame ∈ frames, 0 ≤ frame.1.value) →
          (observer.afterFrames panel frames).Orbits distance.value normal := by
  have advanced := orbits_advance moving placed scaled inclined beyond
  refine ⟨_, Mat3.rotationY_eq degrees, fun observer _ => advanced observer,
    ?_⟩
  intro observer frames nonempty forward
  obtain ⟨earlier, last, rfl⟩ :=
    (List.eq_nil_or_concat frames).resolve_left nonempty
  rw [List.concat_eq_append] at forward ⊢
  obtain ⟨_, later⟩ := List.forall_mem_append.1 forward
  rw [afterFrames, List.foldl_concat]
  exact (advanced _ (later last List.mem_cons_self)).2.turnTo moving last.2

end Moving

/-- Two frames from the start lead to the orbit of radius eleven, tilted by ten
degrees. The camera can follow the motion there. -/
theorem orbits_afterFrames_two :
    let panel : Panel ℝ := .initial
    let straight : Transform ℝ := .ofTurn Mat3.identity
    let frames : List (Number ℝ × Transform ℝ) :=
      [(.real 0.25, straight), (.whole 2, straight)]
    let reached := start.afterFrames panel frames
    (panel.isOn .observerMotion = true ∧
        panel.quantity .observerDistance = .number (.real 11.0) ∧
        panel.quantity .timeScale = .number (.real 1.0) ∧
        panel.quantity .orbitalInclination = .number (.real (-10.0)) ∧
        3 / 2 < (Number.real (11.0 : ℝ)).value ∧
        frames ≠ [] ∧ ∀ frame ∈ frames, 0 ≤ frame.1.value) ∧
      reached.position.norm = 11 ∧ reached.velocity.norm = 1 / √20 ∧
      ∃ frame,
        Camera.orbitBasis reached.position reached.velocity = .ok frame := by
  intro panel straight frames reached
  have moving : panel.isOn .observerMotion = true := rfl
  have placed : panel.quantity .observerDistance = .number (.real 11.0) := rfl
  have scaled : panel.quantity .timeScale = .number (.real 1.0) := rfl
  have inclined :
      panel.quantity .orbitalInclination = .number (.real (-10.0)) := rfl
  have beyond : 3 / 2 < (Number.real (11.0 : ℝ)).value := by norm_num
  have nonempty : frames ≠ [] := List.cons_ne_nil _ _
  have forward : ∀ frame ∈ frames, 0 ≤ frame.1.value := by
    simp only [frames, List.forall_mem_cons]
    exact ⟨by norm_num, by norm_num [Number.value], by simp⟩
  obtain ⟨_, _, _, after⟩ :=
    orbits_afterFrames moving placed scaled inclined beyond
  have orbits := after start frames nonempty forward
  have distance : reached.position.norm = 11 := by
    rw [orbits.distance]
    norm_num
  have speed : reached.velocity.norm = 1 / √20 := by
    rw [orbits.speed]
    norm_num
  refine ⟨⟨moving, placed, scaled, inclined, beyond, nonempty, forward⟩,
    distance, speed, orbits.framed.2 ?_⟩
  have root : √20 < 5 := (Real.sqrt_lt' (by norm_num)).2 (by norm_num)
  have fast : (1 / 5 : ℝ) < 1 / √20 :=
    one_div_lt_one_div_of_lt (by positivity) root
  rw [speed]
  exact lt_trans (by norm_num [Direction.leastLength]) fast

end Observer

end BlackHoleScene
