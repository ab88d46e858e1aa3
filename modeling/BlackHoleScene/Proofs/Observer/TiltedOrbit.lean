import BlackHoleScene.Proofs.Observer.CircularOrbit
import BlackHoleScene.Proofs.Observer.OrbitalFrame

/-!
# Tilted orbits

Over the real numbers, the frame that follows the motion is equivariant: a
rotation of space takes it to the frame of the rotated position and velocity,
and takes away a direction only where there was none. The inclination of the
panel tilts the course of an observer on its orbit and changes nothing else, so
it tilts the camera with the orbit: `Camera.orbitBasis_equivariant`.
-/

namespace BlackHoleScene

section Frame

variable {m : Mat3 ℝ}

/-- A vector has a direction in a rotated space when it has one, and it is the
rotated one. -/
theorem Vec3.normalize_apply
    (orthonormal : m.Orthonormal)
    (subject : String)
    (v : Vec3 ℝ) :
    (m.apply v).normalize subject = (v.normalize subject).map m.apply := by
  simp only [normalize, orthonormal.norm_apply, ← Mat3.apply_shrink]
  cases Direction.checkLength subject Direction.leastLength v.norm <;> rfl

/-- The frame that follows a rotated motion is the rotated frame. -/
theorem Camera.orbitBasis_apply
    (rotation : m.Rotation)
    (position velocity : Vec3 ℝ) :
    orbitBasis (m.apply position) (m.apply velocity) =
      (orbitBasis position velocity).map m.mul := by
  have normalized := Vec3.normalize_apply rotation.orthonormal
  simp only [orbitBasis, normalized]
  cases velocity.normalize "velocity" with
  | error fault => rfl
  | ok heading =>
      simp only [Except.map, bind, Except.bind, ← Mat3.apply_scale,
        ← Mat3.apply_sub, normalized]
      cases (heading.scale headingWeight - position).normalize
        "orbital y axis" with
      | error fault => rfl
      | ok axisY =>
          simp only [Except.map, rotation.cross_apply, normalized]
          cases (position.cross axisY).normalize "orbital z axis" with
          | error fault => rfl
          | ok axisZ =>
              simp only [rotation.cross_apply, pure, Except.pure, Mat3.mul]

end Frame

/-- The panel with its orbit inclined by an angle in degrees. -/
def Panel.inclined (panel : Panel ℝ) (degrees : Number ℝ) : Panel ℝ :=
  panel.assign (.quantity .orbitalInclination) (.number degrees)

namespace Orbit

/-- A placement taken along by a matrix. -/
noncomputable def Placement.carried
    (m : Mat3 ℝ)
    (placement : Placement ℝ) : Placement ℝ where
  position := m.apply placement.position
  velocity := m.apply placement.velocity

/-- A course whose placement is taken along by a matrix. -/
noncomputable def Course.carried
    (m : Mat3 ℝ)
    (course : Course ℝ) : Course ℝ :=
  { course with placement? := course.placement?.map (·.carried m) }

/-- The inclination takes the course of the level orbit along with its tilt. -/
theorem circularCourse_inclined
    (properTime : ℝ)
    (panel : Panel ℝ)
    (degrees : Number ℝ) :
    circularCourse properTime (panel.inclined degrees) =
      (circularCourse properTime (panel.inclined (.real 0))).map
        (·.carried (.tiltY degrees.value)) := by
  have distance (angle : Number ℝ) :
      (panel.inclined angle).scalar .observerDistance =
        panel.scalar .observerDistance := rfl
  have inclination (angle : Number ℝ) :
      (Arithmetic.number ((panel.inclined angle).quantity .orbitalInclination) :
        Except (Fault ℝ) (Number ℝ)) = .ok angle := rfl
  simp only [circularCourse, distance, inclination, Mat3.rotationY_eq,
    Arithmetic.sin_eq, Arithmetic.cos_eq, bind, Except.bind, pure, Except.pure]
  cases panel.scalar .observerDistance with
  | error fault => rfl
  | ok radius =>
      dsimp only
      cases circularSpeed (.real radius) with
      | error fault => rfl
      | ok speed =>
          dsimp only
          split
          · rfl
          · cases Arithmetic.div speed radius with
            | error fault => rfl
            | ok rate =>
                simp only [Except.map, Course.carried, Placement.carried,
                  Option.map_some, Number.value_real, Mat3.tiltY_zero,
                  Mat3.identity_apply]

end Orbit

namespace Observer

open Orbit

/-- The observer with its place and velocity taken along by a matrix. Its camera
stays. -/
noncomputable def carried
    (m : Mat3 ℝ)
    (observer : Observer ℝ) : Observer ℝ :=
  { observer with
    position := m.apply observer.position
    velocity := m.apply observer.velocity }

/-- The observer with its camera taken along as well. -/
noncomputable def rotated
    (m : Mat3 ℝ)
    (observer : Observer ℝ) : Observer ℝ :=
  { observer.carried m with orientation := m.mul observer.orientation }

section Inclined

variable {panel : Panel ℝ}

/-- The inclination only takes the course of a plan along with its tilt. -/
theorem plan_inclined
    (moving : panel.isOn .observerMotion = true)
    (observer : Observer ℝ)
    (elapsed : Value ℝ)
    (degrees : Number ℝ) :
    observer.plan elapsed (panel.inclined degrees) =
      (observer.plan elapsed (panel.inclined (.real 0))).map
        fun (course, step) =>
          (course.carried (.tiltY degrees.value), step) := by
  have onCourse (angle : Number ℝ) :
      observer.course (panel.inclined angle) =
        circularCourse observer.properTime (panel.inclined angle) :=
        if_pos moving
  have scale (angle : Number ℝ) :
      (panel.inclined angle).quantity .timeScale = panel.quantity .timeScale :=
    rfl
  have dilates (angle : Number ℝ) :
      (panel.inclined angle).isOn .gravitationalTimeDilation =
        panel.isOn .gravitationalTimeDilation := rfl
  simp only [plan, onCourse, scale, dilates,
    circularCourse_inclined _ _ degrees, bind, Except.bind, pure, Except.pure]
  cases Arithmetic.number elapsed with
  | error fault => rfl
  | ok seconds =>
      dsimp only
      split
      · rfl
      · cases Arithmetic.times seconds (panel.quantity .timeScale) with
        | error fault => rfl
        | ok coordinateStep =>
            cases circularCourse observer.properTime
              (panel.inclined (.real 0)) with
            | error fault => rfl
            | ok course =>
                dsimp only [Except.map, Course.carried]
                split
                · generalize dilatedStep coordinateStep _ _ = dilated
                  cases dilated <;> rfl
                · rfl

end Inclined

section Moving

variable {panel : Panel ℝ} (moving : panel.isOn .observerMotion = true)
include moving

/-- The inclination takes an observer that moved on along its orbit along with
its tilt. An advance gives the same step of proper time and stops for the same
fault. -/
theorem advance_inclined
    (observer : Observer ℝ)
    (elapsed : Value ℝ)
    (degrees : Number ℝ) :
    (observer.advance elapsed (panel.inclined degrees)).result =
        (observer.advance elapsed (panel.inclined (.real 0))).result ∧
      ∀ step,
        (observer.advance elapsed (panel.inclined (.real 0))).result =
            .ok step →
          (observer.advance elapsed (panel.inclined degrees)).state =
            (observer.advance elapsed (panel.inclined (.real 0))).state.carried
              (.tiltY degrees.value) := by
  unfold advance
  rw [plan_inclined moving]
  cases planned : observer.plan elapsed (panel.inclined (.real 0)) with
  | error fault =>
      refine ⟨rfl, fun step reached => ?_⟩
      cases reached
  | ok plan =>
      obtain ⟨course, step⟩ := plan
      have onCourse :
          circularCourse observer.properTime (panel.inclined (.real 0)) =
            .ok course :=
        (if_pos moving).symm.trans (course_of_plan planned)
      obtain ⟨placement, placed⟩ :=
        exists_placement_of_circularCourse onCourse
      simp only [Except.map, Course.carried, placed, Option.map_some]
      cases clockStep step with
      | error fault =>
          refine ⟨rfl, fun step reached => ?_⟩
          cases reached
      | ok taken => exact ⟨rfl, fun _ _ => rfl⟩

/-- On its orbit, an observer that is rotated in its place turns to the rotated
camera, or is refused a direction alike. -/
theorem turnTo_carried
    {other : Panel ℝ}
    (alsoMoving : other.isOn .observerMotion = true)
    {m : Mat3 ℝ}
    (rotation : m.Rotation)
    (observer : Observer ℝ)
    (view : Transform ℝ) :
    (∃ cause,
      observer.turnTo view panel = .stopped observer (.degenerate cause) ∧
        (observer.carried m).turnTo view other =
          .stopped (observer.carried m) (.degenerate cause)) ∨
      ∃ turned,
        observer.turnTo view panel = .done turned () ∧
          (observer.carried m).turnTo view other =
            .done (turned.rotated m) () := by
  have framedBoth :
      Camera.orbitBasis (observer.carried m).position
        (observer.carried m).velocity =
        (Camera.orbitBasis observer.position observer.velocity).map m.mul :=
    Camera.orbitBasis_apply rotation observer.position observer.velocity
  cases framed : Camera.orbitBasis observer.position observer.velocity with
  | error fault =>
      rw [framed] at framedBoth
      obtain ⟨cause, rfl⟩ := Camera.exists_degenerate_of_orbitBasis framed
      exact .inl ⟨cause, turnTo_of_orbitBasis_error moving framed,
        turnTo_of_orbitBasis_error alsoMoving framedBoth⟩
  | ok frame =>
      rw [framed] at framedBoth
      refine .inr ⟨_, turnTo_of_orbitBasis_ok moving framed, ?_⟩
      rw [turnTo_of_orbitBasis_ok alsoMoving framedBoth, Mat3.mul_assoc]
      rfl

end Moving

end Observer

/-- The frame that follows the motion turns with a rotation, or is refused
alike. So the inclination of an orbit tilts place, velocity and camera, and
keeps the step of proper time. -/
theorem Camera.orbitBasis_equivariant :
    (∀ m : Mat3 ℝ, m.Rotation → ∀ position velocity,
      orbitBasis (m.apply position) (m.apply velocity) =
        (orbitBasis position velocity).map m.mul) ∧
    ∀ panel : Panel ℝ, panel.isOn .observerMotion = true →
      ∀ (observer : Observer ℝ) (elapsed : Value ℝ) (view : Transform ℝ)
        (degrees : Number ℝ),
        let tilt := Mat3.tiltY degrees.value
        let level := observer.advance elapsed (panel.inclined (.real 0))
        let tilted := observer.advance elapsed (panel.inclined degrees)
        (∃ fault,
          level.result = .error fault ∧ tilted.result = .error fault) ∨
          ∃ step,
            level.result = .ok step ∧ tilted.result = .ok step ∧
              tilted.state = level.state.carried tilt ∧
              ((∃ cause,
                level.state.turnTo view (panel.inclined (.real 0)) =
                    .stopped level.state (.degenerate cause) ∧
                  tilted.state.turnTo view (panel.inclined degrees) =
                    .stopped tilted.state (.degenerate cause)) ∨
                ∃ turned,
                  level.state.turnTo view (panel.inclined (.real 0)) =
                    .done turned () ∧
                    tilted.state.turnTo view (panel.inclined degrees) =
                      .done (turned.rotated tilt) ()) := by
  refine ⟨fun m rotation => orbitBasis_apply rotation, ?_⟩
  intro panel moving observer elapsed view degrees tilt level tilted
  obtain ⟨sameResult, sameMotion⟩ :=
    Observer.advance_inclined moving observer elapsed degrees
  have onLevel : (panel.inclined (.real 0)).isOn .observerMotion = true :=
    moving
  have onTilted : (panel.inclined degrees).isOn .observerMotion = true := moving
  cases reached : level.result with
  | error fault => exact .inl ⟨fault, rfl, sameResult.trans reached⟩
  | ok step =>
      have carried : tilted.state = level.state.carried tilt :=
        sameMotion step reached
      have rotation : tilt.Rotation := Mat3.rotation_tiltY degrees.value
      refine .inr ⟨step, rfl, sameResult.trans reached, carried, ?_⟩
      rw [carried]
      exact Observer.turnTo_carried onLevel onTilted rotation level.state view

/-- A quarter turn takes the frame of a motion along, and an inclination by as
much takes as long on the clock of the observer at the start. -/
theorem Camera.orbitBasis_equivariant_quarter :
    let quarter := Mat3.tiltY 90
    let panel : Panel ℝ := .initial
    let level := Observer.start.advance (.real 1) (panel.inclined (.real 0))
    let tilted := Observer.start.advance (.real 1) (panel.inclined (.real 90))
    quarter.Rotation ∧
      orbitBasis (quarter.apply ⟨4, 0, 0⟩) (quarter.apply ⟨0, 1, 0⟩) =
        (orbitBasis ⟨4, 0, 0⟩ ⟨0, 1, 0⟩).map quarter.mul ∧
      panel.isOn .observerMotion = true ∧ tilted.result = level.result := by
  intro quarter panel level tilted
  have rotation : quarter.Rotation := Mat3.rotation_tiltY 90
  refine ⟨rotation, orbitBasis_equivariant.1 quarter rotation _ _, rfl, ?_⟩
  rcases orbitBasis_equivariant.2 panel rfl Observer.start (.real 1)
      ⟨.identity, .zero, .zero, 1⟩ (.real 90) with
    ⟨fault, onLevel, onTilted⟩ | ⟨step, onLevel, onTilted, _⟩
  · exact onTilted.trans onLevel.symm
  · exact onTilted.trans onLevel.symm

end BlackHoleScene
