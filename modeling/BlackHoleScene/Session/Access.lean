import BlackHoleScene.Session.Operation

/-!
# Direct access to the panel

A host that holds the panel and the queue of a session can do more than operate
the session: it can set controls at once, each value being accepted first, and
it can let the queued changes take effect without a step.
-/

namespace BlackHoleScene

variable {α : Type} [Scalar α]

/-- What a host can do with a session, its panel and its queue. -/
inductive Access (α : Type)
  | operate (operation : Operation α)
  | set (path : String) (value : Value α)
  | applyChanges

namespace Session

/-- Accept a value for the control of a path and place it on the panel. -/
def set
    (session : Session α)
    (path : String)
    (value : Value α) : Outcome α (Session α) Unit :=
  match session.panel.setAt path value with
  | .error fault => .stopped session fault
  | .ok panel => .done { session with panel } ()

/-- Let the queued changes take effect. Unlike a step, this leaves the program
text as it is. -/
def applyChanges (session : Session α) :
    Outcome α (Session α) ChangeReport :=
  (session.queue.drain session.panel).within fun (panel, queue) =>
    { session with panel, queue }

/-- The session after an access, also after one that stopped. -/
def accessed (session : Session α) : Access α → Session α
  | .operate operation => (session.perform operation).state
  | .set path value => (session.set path value).state
  | .applyChanges => session.applyChanges.state

/-- The session after a series of accesses, one after the other. -/
def accessedAll
    (session : Session α)
    (accesses : List (Access α)) : Session α :=
  accesses.foldl accessed session

end Session

end BlackHoleScene
