import AccessLog.Gateway.Course

/-!
# Schedules

Several exchanges share one observer and its clock, and take turns in the order
of a schedule. After the schedule every exchange is resumed until it ends, one
exchange after the other. A turn ends in a pause only if it has used up a step,
so an exchange needs at most one turn more than it has steps.
-/

namespace AccessLog.Gateway

structure Signal where
  index : Nat
  command : Command
  deriving Repr, DecidableEq

/-- All exchanges and the number of clock reads. -/
structure State where
  reads : Nat
  courses : List Course
  deriving Repr

/-- An event and the index of the exchange that it belongs to. -/
abbrev Tagged := Nat × Event

namespace State

/-- Passes a signal on to its exchange. -/
def step (observer : Option Observer) (s : State) (signal : Signal) : List Tagged × State :=
  match s.courses[signal.index]? with
  | none => ([], s)
  | some c =>
    let turn := c.take observer signal.index s.reads signal.command
    (turn.events.map (signal.index, ·), ⟨turn.reads, s.courses.set signal.index turn.course⟩)

/-- Passes signals on, one after the other. -/
def run (observer : Option Observer) (s : State) : List Signal → List Tagged
  | [] => []
  | signal :: rest =>
    let (events, s) := s.step observer signal
    events ++ run observer s rest

end State

/-- Signals that make every exchange end, in the order of the exchanges. -/
def completion (courses : List Course) : List Signal :=
  courses.zipIdx.flatMap fun (c, i) => List.replicate (c.stepsLeft + 1) ⟨i, .resume⟩

def trace (observer : Option Observer) (courses : List Course) (schedule : List Signal) :
    List Tagged :=
  State.run observer ⟨0, courses⟩ (schedule ++ completion courses)

/-- The events of a trace that can be seen from outside. -/
def visible (events : List Tagged) : List Tagged := events.filter fun e => e.2.isVisible

end AccessLog.Gateway
