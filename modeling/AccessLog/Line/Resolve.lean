import AccessLog.Exchange.Basic
import AccessLog.Format.Token
import AccessLog.Line.Duration
import AccessLog.Record

/-!
# Resolving a token

The value that a token shows for an exchange. What is missing is `null`, except
that a field token shows the empty text. A request field is sought among the
headers first and then among the scope properties. A token that cannot be
resolved counts as missing and leaves a remark.
-/

namespace AccessLog

namespace Resolve

/-- A text, or `null`. -/
def ofText? : Option String → Value
  | some s => .text s
  | none => .null

/-- The time from the start of the exchange to a tick; missing when either of
them is. -/
def timeTo (marks : Marks) (tick : Value) : Except Fault Value :=
  if marks.startedAt = .null then .ok .null
  else do return .text (← Duration.ofTicks marks.startedAt tick)

def status (response : Response) : Except Fault Value :=
  if response.status = .null then .ok .null else response.status.display.map .text

def responseTime (marks : Marks) : Except Fault Value :=
  if marks.headersSentAt = .null then .ok .null else timeTo marks marks.headersSentAt

/-- The referring page, under either of the two spellings. -/
def referrer (headers : Headers) : Except Fault Value := do
  match ← headers.field? "referer" with
  | some s => if s = "" then return ofText? (← headers.field? "referrer") else return .text s
  | none => return ofText? (← headers.field? "referrer")

/-- A field of the request: a header, or else a property. -/
def requestField (request : Request) (key : String) : Except Fault Value := do
  match ← request.headers.field? key with
  | some s => return .text s
  | none => return .text ((request.properties.get? key).getD "")

def responseField (response : Response) (key : String) : Except Fault Value := do
  return .text ((← response.headers.field? key).getD "")

end Resolve

namespace TokenKind

/-- The value that a token of the kind shows. A field token without a key shows
the empty text. -/
def value (kind : TokenKind) (key : Option String) (e : Exchange) : Except Fault Value :=
  match kind with
  | url => .ok (e.request.url.orElse .null)
  | method => .ok (e.request.method.orElse .null)
  | status => Resolve.status e.response
  | responseTime => Resolve.responseTime e.marks
  | totalTime => Resolve.timeTo e.marks e.renderedAt
  | httpVersion => .ok e.request.httpVersion
  | referrer => Resolve.referrer e.request.headers
  | remoteAddress =>
    .ok (e.request.ip.orElse (e.request.remoteAddress.orElse e.request.peerAddress))
  | userAgent => (e.request.headers.field? "user-agent").map Resolve.ofText?
  | requestField =>
    match key.getD "" with
    | "" => .ok (.text "")
    | k => Resolve.requestField e.request k
  | responseField =>
    match key.getD "" with
    | "" => .ok (.text "")
    | k => Resolve.responseField e.response k

end TokenKind

namespace TokenRef

/-- The value that the token shows, `null` when it is missing or cannot be
found out. -/
def resolve (ref : TokenRef) (e : Exchange) : Value :=
  match ref.kind.value ref.key e with
  | .ok v => v
  | .error _ => .null

/-- The remark about a token that cannot be resolved. -/
def remarks (ref : TokenRef) (e : Exchange) : List Record :=
  match ref.kind.value ref.key e with
  | .ok _ => []
  | .error cause =>
    [⟨Level.debug, Channel.resolver, .text ("Failed to resolve " ++ ref.text), some (.fault cause)⟩]

end TokenRef

end AccessLog
