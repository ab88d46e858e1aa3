import BlackHoleScene.Session.Step

/-!
# Operations on a session

Everything that a host does with a session after it began is one of six
operations. A run performs operations one after the other, going on after one
that stopped from the state it reached.
-/

namespace BlackHoleScene

variable {α : Type} [Scalar α]

/-- What a host can ask of a session. -/
inductive Operation (α : Type)
  | enqueue (path : String) (value : Value α)
  | discardChanges
  | pauseOrResume
  | markStale
  | fetchProgram
  | step (elapsed : Value α) (view? : Option (Grid α))

/-- What a session answers to an operation that did not stop. -/
inductive Reply (α : Type)
  | done
  | paused (isPaused : Bool)
  | text (characters : String)
  | frame (update? : Option (Frame α))

namespace Session

/-- Perform an operation. -/
def perform (session : Session α) :
    Operation α → Outcome α (Session α) (Reply α)
  | .enqueue path value =>
      (session.enqueue path value).andThen fun queued () => .done queued .done
  | .discardChanges => .done session.discardChanges .done
  | .pauseOrResume =>
      session.pauseOrResume.andThen fun toggled isPaused =>
        .done toggled (.paused isPaused)
  | .markStale => .done session.markStale .done
  | .fetchProgram =>
      session.fetchProgram.andThen fun renewed text =>
        .done renewed (.text text)
  | .step elapsed view? =>
      (session.step elapsed view?).andThen fun stepped update? =>
        .done stepped (.frame update?)

/-- The state after a run of operations. -/
def run
    (session : Session α)
    (operations : List (Operation α)) : Session α :=
  operations.foldl
    (fun reached operation => (reached.perform operation).state) session

@[simp] theorem run_nil (session : Session α) : session.run [] = session := rfl

@[simp] theorem run_cons
    (session : Session α)
    (operation : Operation α)
    (rest : List (Operation α)) :
    session.run (operation :: rest) =
      (session.perform operation).state.run rest := rfl

theorem run_append
    (session : Session α)
    (before after : List (Operation α)) :
    session.run (before ++ after) = (session.run before).run after :=
  List.foldl_append

end Session

end BlackHoleScene
