import AccessLog.Capture.Handler

/-!
# A capture under a clock

A session drives one capture step by step and reads its clock where that is
needed: once at the start, and once for each response start that is still to be
recorded. A step that fails reports its failure and leaves the session usable.
-/

namespace AccessLog

inductive SessionStep where
  | mark (message : Value)
  | arm (handler : Handler)
  | finish
  | now
  deriving Repr

structure Session where
  capture : Capture Handler
  reads : Nat
  deriving Repr

/-- What a step gave, what was seen during it, and the session afterwards. -/
structure Report where
  result : Except Failure Value
  notices : List Notice
  session : Session

namespace Session

def start (clock : Clock) : Except Failure Report :=
  match clock 0 with
  | .tick v => .ok ⟨.ok .null, [.clock (.tick v)], ⟨Capture.start v, 1⟩⟩
  | .fails cause => .error cause

/-- Reads the clock and goes on with the tick. -/
def withTick (clock : Clock) (s : Session)
    (next : Value → Except Failure (Value × Capture Handler)) : Report :=
  let reading := clock s.reads
  let s : Session := { s with reads := s.reads + 1 }
  match reading with
  | .fails cause => ⟨.error cause, [.clock reading], s⟩
  | .tick v =>
    match next v with
    | .ok (result, capture) => ⟨.ok result, [.clock reading], { s with capture }⟩
    | .error cause => ⟨.error cause, [.clock reading], s⟩

def act (s : Session) (actions : List Action) : Report :=
  let p := s.capture.perform actions
  let result :=
    match p.failure with
    | some cause => .error cause
    | none => .ok .null
  ⟨result, p.notices, { s with capture := p.capture }⟩

/-- Takes one step. Recording the start of a response answers whether it was
still to be recorded. -/
def step (clock : Clock) (s : Session) : SessionStep → Report
  | .mark message =>
    if s.capture.headersSent then ⟨.ok (.bool false), [], s⟩
    else
      s.withTick clock fun tick =>
        match s.capture.mark tick message with
        | .ok capture => .ok (.bool true, capture)
        | .error cause => .error (.fault cause)
  | .arm handler => ⟨.ok .null, [], { s with capture := s.capture.arm handler }⟩
  | .finish => s.act [.finish]
  | .now => s.withTick clock fun tick => .ok (tick, s.capture)

def steps (clock : Clock) (s : Session) : List SessionStep → List Report
  | [] => []
  | st :: rest =>
    let report := s.step clock st
    report :: steps clock report.session rest

/-- The reports of a whole session, the start included. -/
def run (clock : Clock) (sts : List SessionStep) : Except Failure (List Report) := do
  let report ← start clock
  return report :: report.session.steps clock sts

end Session

end AccessLog
