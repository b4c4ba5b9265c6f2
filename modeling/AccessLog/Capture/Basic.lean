import AccessLog.Exchange.Basic

/-!
# Capturing one exchange

A capture collects what becomes known in the course of one exchange: the tick at
its start, the tick and the facts of its response once it has started, and
whether the exchange has finished. The facts of the response and the tick of its
start are taken from one message and set together. A handler that is armed
before the exchange finishes runs when it does.
-/

namespace AccessLog

/-- What is known about an exchange that is going on; `H` is the type of
handlers. -/
structure Capture (H : Type) where
  startedAt : Value
  headersSentAt : Value
  response : Response
  handler : Option H
  finished : Bool
  deriving Repr

namespace Capture

variable {H : Type}

/-- The capture of an exchange that starts at a tick. -/
def start (tick : Value) : Capture H where
  startedAt := tick
  headersSentAt := .null
  response := Response.none
  handler := none
  finished := false

def headersSent (c : Capture H) : Bool := c.headersSentAt != .null

def mark (c : Capture H) (tick message : Value) : Except Fault (Capture H) := do
  let response ← Response.ofStart message
  return { c with headersSentAt := tick, response }

def arm (c : Capture H) (handler : H) : Capture H := { c with handler := some handler }

/-- Changes the armed handler, if there is one. -/
def mapHandler (f : H → H) (c : Capture H) : Capture H := { c with handler := c.handler.map f }

def finish (c : Capture H) : Capture H := { c with finished := true }

def marks (c : Capture H) : Marks := ⟨c.startedAt, c.headersSentAt⟩

end Capture

end AccessLog
