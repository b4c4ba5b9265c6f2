/-!
# What can go wrong

A `Fault` is a cause that lies in the values themselves. A `Failure` is what
ends an activity early: a fault, something raised by a participant (an
application, a clock, a callback, a sink, a host), or a cancellation. Ordinary
failures may be caught and logged; the others must reach whoever runs the
exchange.
-/

namespace AccessLog

/-- Why an operation on a value has no answer. -/
inductive Fault where
  /-- The operation is not defined between values of these kinds. -/
  | unsupported
  /-- The value's kind has no such operation. -/
  | noOperation
  /-- The value's kind fits but its content does not. -/
  | malformed
  /-- A mapping has no entry under the key. -/
  | missingKey
  /-- A sequence has no element at the index. -/
  | missingIndex
  /-- The result is beyond the range of its type. -/
  | outOfRange
  /-- Bytes are not text in the expected encoding. -/
  | undecodable
  deriving Repr, DecidableEq

/-- The kinds of failure a participant raises. -/
inductive RaisedKind where
  | runtime
  | value
  | os
  | key
  | type
  | interrupt
  | exit
  | cancellation
  deriving Repr, DecidableEq

namespace RaisedKind

/-- Interrupts, exits and cancellations are requests to stop, not errors. -/
def isOrdinary : RaisedKind → Bool
  | .interrupt => false
  | .exit => false
  | .cancellation => false
  | _ => true

end RaisedKind

/-- What ends an activity early. -/
inductive Failure where
  | fault (cause : Fault)
  | raised (kind : RaisedKind) (text : String)
  | cancelled
  deriving Repr, DecidableEq

namespace Failure

/-- May the failure be caught and logged? -/
def isOrdinary : Failure → Bool
  | .fault _ => true
  | .raised kind _ => kind.isOrdinary
  | .cancelled => false

end Failure

end AccessLog
