import AccessLog.Clock
import AccessLog.Exchange.Basic
import AccessLog.Record

/-!
# Events at the gateway

What happens in exchanges: what the application does, what the host receives,
what the observer does, and how each turn of an exchange ends. The observer's
own events are its clock reads, its log records, its calls of the callback and
of the sink, and the moment at which it takes an exchange to have finished. Some
events keep what cannot be seen from outside: that a message is passed on, what
the scope becomes, and what is known when an exchange finishes.
-/

namespace AccessLog.Gateway

/-- What is known about an exchange at the moment at which it finishes. -/
structure Moment where
  scope : Table
  /-- The client's host, kept from the start. -/
  host : Value
  response : Response
  marks : Marks
  deriving Repr, DecidableEq

inductive Event where
  /-- The application is entered, for a scope of this type. -/
  | entered (type : Value)
  /-- The application receives a message. -/
  | received (message : Table)
  /-- The application deals with a failure and goes on. -/
  | caught (cause : Failure)
  /-- The application changes its scope, which is then this one. -/
  | changed (scope : Table)
  /-- The application passes a message on, for the host to take. -/
  | passed (message : Table)
  /-- The host takes a message. -/
  | sent (message : Table)
  /-- The host fails to take a message. -/
  | sendFailed (message : Table)
  /-- The observed exchange finishes, and its line is about to be emitted. -/
  | finished (moment : Moment)
  | clock (reading : Reading)
  | logged (record : Record)
  /-- The callback is called with the tokens of a line. -/
  | notified (tokens : Named String)
  /-- A line is written to the sink. -/
  | wrote (line : String)
  /-- The exchange waits to be resumed. -/
  | paused
  /-- The exchange has ended, with a failure or without. -/
  | done (failure : Option Failure)
  deriving Repr, DecidableEq

namespace Event

/-- Is the event the observer's own doing? -/
def isObservers : Event → Bool
  | finished _ => true
  | clock _ => true
  | logged _ => true
  | notified _ => true
  | wrote _ => true
  | _ => false

/-- Can the event be seen from outside? A message that is passed on shows when
the host gets it, a change of the scope in what is read from it later, and that
an exchange finishes in what the observer does next. -/
def isVisible : Event → Bool
  | changed _ => false
  | passed _ => false
  | finished _ => false
  | _ => true

end Event

end AccessLog.Gateway
