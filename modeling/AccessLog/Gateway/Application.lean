import AccessLog.Gateway.Activity

/-!
# Applications

An application is a list of steps. It is entered with a scope that it shares
with its surroundings and with a way to send messages; it may pause between
steps, may change the scope, and may deal with the ordinary failures of a step
and go on.
-/

namespace AccessLog.Gateway

inductive Act where
  | send (message : Table)
  | receive
  | pause
  /-- Puts a value into the scope, at the end of a path of keys. -/
  | assign (path : List Value) (v : Value)
  /-- Removes an entry of the scope, if it is there. -/
  | remove (key : Value)
  | fail (cause : Failure)
  deriving Repr, DecidableEq

structure AppStep where
  act : Act
  catches : Bool
  deriving Repr, DecidableEq

inductive Progress where
  | paused (rest : List AppStep)
  | returned
  deriving Repr, DecidableEq

/-- A way to send a message. -/
abbrev Send := Table → Activity Unit

/-- The message that an application receives: an empty body. -/
def emptyRequest : Table :=
  [(.text "type", .text "http.request"), (.text "body", .bytes []), (.text "more_body", .bool false)]

def assignIn (scope : Table) (path : List Value) (v : Value) : Except Fault Table := do
  match ← Value.withItemAt (.table scope) path v with
  | .table scope => return scope
  | _ => return scope

namespace Act

/-- Carries out a step that does not pause. -/
def perform (send : Send) : Act → Activity Unit
  | .send message => do
    Activity.leave (.passed message)
    send message
  | .receive => Activity.leave (.received emptyRequest)
  | .pause => pure ()
  | .assign path v => do
    let before := (← Activity.live).scope
    let scope ← Activity.ofExcept (assignIn before path v)
    Activity.change fun live => { live.changeHost (·.afterPut before path v) with scope }
    Activity.leave (.changed scope)
  | .remove key =>
    if key.isHashable then do
      let scope := (← Activity.live).scope.erase key
      Activity.change fun live => { live.changeHost (·.afterRemove key) with scope }
      Activity.leave (.changed scope)
    else Activity.fail (.fault .unsupported)
  | .fail cause => Activity.fail cause

end Act

namespace AppStep

/-- Carries out a step; one that catches its failures goes on after the
ordinary ones. -/
def perform (send : Send) (step : AppStep) : Activity Unit :=
  if step.catches then
    (step.act.perform send).recover fun cause => Activity.leave (.caught cause)
  else step.act.perform send

end AppStep

/-- Carries out steps up to the next pause or to the end. -/
def advance (send : Send) : List AppStep → Activity Progress
  | [] => pure .returned
  | step :: rest =>
    if step.act = .pause then pure (.paused rest)
    else do
      step.perform send
      advance send rest

end AccessLog.Gateway
