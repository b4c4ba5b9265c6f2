import AccessLog.Capture.Basic
import AccessLog.Clock
import AccessLog.Record

/-!
# Handlers that act on their own capture

A handler may finish its exchange again, arm another handler and fail. `perform`
carries out actions one after the other; finishing puts the actions of the armed
handler in front of those that are left, so a failure in a handler also ends
whatever called it. Finishing takes effect once, which is why `perform`
terminates although handlers may call for it without end.
-/

namespace AccessLog

inductive Action where
  | finish
  /-- Arms a handler with a name and actions of its own. -/
  | arm (name : String) (body : List Action)
  | fail (cause : Failure)
  deriving Repr

structure Handler where
  name : String
  body : List Action
  deriving Repr

/-- What can be seen of a capture at work. -/
inductive Notice where
  | clock (reading : Reading)
  | ran (name : String)
  | logged (record : Record)
  deriving Repr, DecidableEq

/-- The outcome of a list of actions: what was seen, the capture afterwards, and
the failure that cut the list short. -/
structure Performance where
  notices : List Notice
  capture : Capture Handler
  failure : Option Failure
  deriving Repr

namespace Performance

/-- A performance that comes after a notice. -/
def after (notice : Notice) (p : Performance) : Performance :=
  { p with notices := notice :: p.notices }

end Performance

/-- The remark about an exchange that finishes with no handler armed. -/
def unarmedRemark : Record :=
  Record.remark Channel.capture "Exchange finished with no handler armed"

namespace Capture

def perform (c : Capture Handler) : List Action → Performance
  | [] => ⟨[], c, none⟩
  | .arm name body :: rest => perform (c.arm ⟨name, body⟩) rest
  | .fail cause :: _ => ⟨[], c, some cause⟩
  | .finish :: rest =>
    if c.finished then perform c rest
    else
      match c.handler with
      | none => (perform c.finish rest).after (.logged unarmedRemark)
      | some h => (perform c.finish (h.body ++ rest)).after (.ran h.name)
termination_by actions => (if c.finished then 0 else 1, actions.length)
decreasing_by
  · exact Prod.Lex.right _ (by simp)
  · exact Prod.Lex.right _ (by simp)
  · exact Prod.Lex.left _ _ (by simp_all [Capture.finish])
  · exact Prod.Lex.left _ _ (by simp_all [Capture.finish])

end Capture

end AccessLog
