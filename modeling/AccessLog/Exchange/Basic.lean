import AccessLog.Exchange.Headers
import AccessLog.Exchange.Location
import AccessLog.Exchange.Property

/-!
# Exchanges

Everything a line may show about one exchange: the facts of the request, read
from its scope; those of the response, read from the message that starts it;
and the ticks of the clock. A fact that is missing is `null`.
-/

namespace AccessLog

structure Request where
  method : Value
  url : Value
  path : Value
  httpVersion : Value
  headers : Headers
  properties : Named String
  ip : Value
  remoteAddress : Value
  peerAddress : Value
  deriving Repr, DecidableEq

namespace Request

/-- The path with the query string, when there is one. -/
def urlOf (path query : Value) : Except Fault Value := do
  if !query.isTruthy then return path
  let shown ← path.display
  match query with
  | .bytes bs => return .text (shown ++ "?" ++ Text.latin1 bs)
  | .buffer bs => return .text (shown ++ "?" ++ Text.latin1 bs)
  | _ => throw .noOperation

/-- The address that an application has put into the request state. -/
def stateAddress (scope : Table) : Value :=
  match scope.get "state" with
  | .table state => Table.get state "ip"
  | _ => .null

/-- An address as a text; one that is not truthy is missing. -/
def addressText (address : Value) : Except Fault Value :=
  if address.isTruthy then address.display.map .text else .ok .null

/-- Reads the facts of a request from its scope. The remote address is the
client's host as it was when the exchange began; the peer address is the one in
the scope. -/
def ofScope (scope : Table) (remoteAddress : Value) : Except Fault Request := do
  let path ← requestedPath scope
  let url ← urlOf path (scope.get "query_string")
  let properties ← Property.ofScope scope
  let headers ← Headers.decode (scope.get "headers")
  let ip ← addressText (stateAddress scope)
  let peerAddress ← clientHost scope
  return {
    method := (scope.get? "method").getD (.text "")
    httpVersion := scope.get "http_version"
    url, path, headers, properties, ip, remoteAddress, peerAddress }

end Request

/-- The facts of a response; both are missing before it has started. -/
structure Response where
  status : Value
  headers : Headers
  deriving Repr, DecidableEq

namespace Response

def none : Response := ⟨.null, []⟩

/-- Reads the facts of a response from the message that starts it, which has to
be a mapping. -/
def ofStart : Value → Except Fault Response
  | .table message => do
    let headers ← Headers.decode (Table.get message "headers")
    return ⟨Table.get message "status", headers⟩
  | _ => .error .noOperation

end Response

/-- Ticks of a monotonic clock, in nanoseconds. -/
structure Marks where
  startedAt : Value
  headersSentAt : Value
  deriving Repr, DecidableEq

structure Exchange where
  request : Request
  response : Response
  marks : Marks
  renderedAt : Value
  deriving Repr, DecidableEq

end AccessLog
