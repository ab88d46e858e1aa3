import BlackHoleScene.Chart.Figure
import BlackHoleScene.Control.Snapshot
import BlackHoleScene.Proofs.Control.DrainReport
import BlackHoleScene.Proofs.Observer.Atomic
import BlackHoleScene.Proofs.Observer.FiniteMotion
import BlackHoleScene.Proofs.Observer.FrameRate
import BlackHoleScene.Proofs.Observer.OrbitalFrame
import BlackHoleScene.Proofs.Observer.OrbitalPlane
import BlackHoleScene.Proofs.Observer.Rejection
import BlackHoleScene.Proofs.Observer.TiltedOrbit
import BlackHoleScene.Proofs.Session.AfterFrame
import BlackHoleScene.Proofs.Session.PausedStep
import BlackHoleScene.Proofs.Session.ProgramText
import BlackHoleScene.Proofs.Session.ProperTime
import BlackHoleScene.Proofs.Session.Recompilation
import BlackHoleScene.Proofs.Session.Refusal
import BlackHoleScene.Proofs.Session.ResumedScale
import BlackHoleScene.Proofs.Session.ShownPanel
import BlackHoleScene.Proofs.Session.SkippedStep
import BlackHoleScene.Proofs.Session.SoundPanel
import BlackHoleScene.Proofs.Session.StoppedStep
import BlackHoleScene.Proofs.Settings
import BlackHoleScene.Proofs.Stencil.Canonical
import BlackHoleScene.Proofs.Stencil.Composition
import BlackHoleScene.Proofs.Stencil.FlatRendering
import BlackHoleScene.Proofs.Stencil.ReadBack
import BlackHoleScene.Proofs.Stencil.Resolution
import BlackHoleScene.Proofs.Stencil.Scanning
import BlackHoleScene.Session.Operation
import BlackHoleScene.Ticker
