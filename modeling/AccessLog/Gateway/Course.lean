import AccessLog.Gateway.Observer

/-!
# The course of an exchange

An exchange waits until it is resumed for the first time, then alternates
between running and pausing, and ends when its application returns or fails. It
can be cancelled at any pause, or before it has begun. Without an observer the
application runs bare on the host.
-/

namespace AccessLog.Gateway

/-- Where an exchange stands between two turns. -/
inductive Phase where
  | waiting (steps : List AppStep)
  | paused (rest : List AppStep)
  | ended
  deriving Repr, DecidableEq

structure Course where
  failing : List Nat
  phase : Phase
  live : Live
  deriving Repr

namespace Course

def ofScript (scope : Table) (steps : List AppStep) (failing : List Nat) : Course :=
  ⟨failing, .waiting steps, ⟨scope, 0, none⟩⟩

def stepsLeft (c : Course) : Nat :=
  match c.phase with
  | .waiting steps => steps.length
  | .paused rest => rest.length
  | .ended => 0

end Course

/-- How the application of exchange `i` sends: through the observer when the
exchange is observed, and directly to the host otherwise. -/
def sendOf (observer : Option Observer) (i : Nat) (failing : List Nat) : Send := fun message => do
  match observer, (← Activity.live).capture with
  | some o, some _ => o.forward i failing message
  | _, _ => hostSend failing message

/-- Finishes exchange `i`, when it is observed. -/
def finishOf (observer : Option Observer) (i : Nat) : Activity Unit :=
  match observer with
  | some o => o.finish i
  | none => pure ()

/-- Runs the application from these steps on. The exchange finishes when the
application ends, whether it returns or fails. -/
def proceed (observer : Option Observer) (i : Nat) (failing : List Nat) (steps : List AppStep) :
    Activity Progress := do
  match ← (advance (sendOf observer i failing) steps).attempt with
  | .ok (.paused rest) => return .paused rest
  | .ok .returned =>
    finishOf observer i
    return .returned
  | .error cause =>
    finishOf observer i
    Activity.fail cause

/-- Begins the exchange and runs its application. -/
def begin (observer : Option Observer) (i : Nat) (failing : List Nat) (steps : List AppStep) :
    Activity Progress := do
  match observer with
  | some o => o.beginCapture
  | none => pure ()
  Activity.leave (.entered ((← Activity.live).scope.get "type"))
  proceed observer i failing steps

/-- Cancels an exchange that is paused. -/
def interrupt (observer : Option Observer) (i : Nat) : Activity Progress := do
  finishOf observer i
  Activity.fail .cancelled

inductive Command where
  | resume
  | cancel
  deriving Repr, DecidableEq

/-- The turn that an exchange takes when told to; `none` when it has ended. -/
def Course.turn? (observer : Option Observer) (i : Nat) (c : Course) :
    Command → Option (Activity Progress)
  | .resume =>
    match c.phase with
    | .waiting steps => some (begin observer i c.failing steps)
    | .paused rest => some (proceed observer i c.failing rest)
    | .ended => none
  | .cancel =>
    match c.phase with
    | .waiting _ => some (Activity.fail .cancelled)
    | .paused _ => some (interrupt observer i)
    | .ended => none

namespace Progress

def event : Except Failure Progress → Event
  | .ok (.paused _) => .paused
  | .ok .returned => .done none
  | .error cause => .done (some cause)

def phase : Except Failure Progress → Phase
  | .ok (.paused rest) => .paused rest
  | .ok .returned => .ended
  | .error _ => .ended

end Progress

/-- The outcome of a turn: its events, the number of clock reads, and the
exchange afterwards. -/
structure Turn where
  events : List Event
  reads : Nat
  course : Course

/-- Takes a turn; an exchange that has ended takes none. -/
def Course.take (observer : Option Observer) (i : Nat) (c : Course) (reads : Nat)
    (command : Command) : Turn :=
  match c.turn? observer i command with
  | none => ⟨[], reads, c⟩
  | some activity =>
    let o := activity reads c.live
    ⟨o.events ++ [Progress.event o.result], o.reads,
      { c with phase := Progress.phase o.result, live := o.live }⟩

end AccessLog.Gateway
