import AccessLog.Capture.Handler
import AccessLog.Gateway.Application
import AccessLog.Line.Render

/-!
# Observing exchanges

An observer stands between the host and an application. It looks at each http
exchange whose requested path is not on its blacklist: it reads the clock before
the application is entered and when the response starts, forwards every message
unchanged, and emits one line when the exchange finishes, which is when the last
part of the body has been sent or when the application ends, whichever comes
first. Its own ordinary failures are logged and go no further.
-/

namespace AccessLog.Gateway

/-- What an observer is made of. The callback and the sink are given the index
of the exchange, and answer with the failure that they raise, if any. -/
structure Observer where
  template : Template
  blacklist : List Value
  clock : Clock
  callback : Option (Nat → Named String → Option Failure)
  sink : Nat → String → Option Failure

/-- The host takes a message, or fails to when it is one of the failing ones. -/
def hostSend (failing : List Nat) (message : Table) : Activity Unit := do
  let n := (← Activity.live).sends
  Activity.change fun live => { live with sends := n + 1 }
  if failing.contains n then
    Activity.leave (.sendFailed message)
    Activity.fail (.raised .os "client gone")
  else Activity.leave (.sent message)

/-- A message about the request with this scope, which it names by its path. A
path that is a map is kept beside the message. -/
def messageFor (scope : Table) (s : String) : Message :=
  match scope.get "path" with
  | .table (e :: es) => .withMap (s ++ " for %s") (e :: es)
  | path => .text (s ++ " for " ++ path.display.toOption.getD "")

namespace Observer

/-- Logs an ordinary failure. -/
def report (message : Message) (cause : Failure) : Activity Unit :=
  Activity.leave (.logged (.ofFailure Channel.middleware message cause))

/-- Logs an ordinary failure that concerns one request. -/
def reportFor (message : String) (cause : Failure) : Activity Unit := do
  report (messageFor (← Activity.live).scope message) cause

/-- Ends with the failure that a participant raises, if any. -/
def raise : Option Failure → Activity Unit
  | some cause => Activity.fail cause
  | none => pure ()

/-! ## Emitting a line -/

/-- Renders the line of an exchange from its scope as it is now. -/
def render (o : Observer) (emission : Emission) (c : Capture Emission) : Activity Rendering := do
  let request ← Activity.ofExcept (Request.ofScope (← Activity.live).scope emission.host.value)
  let renderedAt ← Activity.readClock o.clock
  let e : Exchange := ⟨request, c.response, c.marks, renderedAt⟩
  (o.template.remarks e).forM fun record => Activity.leave (.logged record)
  Activity.ofExcept (o.template.render e)

def notify (o : Observer) (i : Nat) (tokens : Named String) : Activity Unit :=
  match o.callback with
  | none => pure ()
  | some callback =>
    (do
      Activity.leave (.notified tokens)
      raise (callback i tokens)).recover (report (.text "Request metrics callback failed"))

def write (o : Observer) (i : Nat) (line : String) : Activity Unit :=
  (do
    Activity.leave (.wrote line)
    raise (o.sink i line)).recover (report (.text "Failed to write request line"))

/-- What is known about an exchange that finishes now. -/
def momentOf (live : Live) (emission : Emission) (c : Capture Emission) : Moment :=
  ⟨live.scope, emission.host.value, c.response, c.marks⟩

def emit (o : Observer) (i : Nat) (emission : Emission) (c : Capture Emission) :
    Activity Unit := do
  Activity.leave (.finished (momentOf (← Activity.live) emission c))
  match ← (o.render emission c).attempt with
  | .ok rendering =>
    o.notify i rendering.tokens
    o.write i (rendering.line ++ "\n")
  | .error cause =>
    if cause.isOrdinary then reportFor "Failed to render request line" cause
    else Activity.fail cause

/-! ## The course of an observed exchange -/

/-- Finishes an exchange, unless it has finished already. -/
def finish (o : Observer) (i : Nat) : Activity Unit := do
  match (← Activity.live).capture with
  | none => pure ()
  | some c =>
    if c.finished then pure ()
    else
      Activity.change fun live => { live with capture := some c.finish }
      match c.handler with
      | none => Activity.leave (.logged unarmedRemark)
      | some emission => o.emit i emission c.finish

/-- Records the start of the response, unless it has been recorded already. -/
def mark (o : Observer) (message : Table) : Activity Unit := do
  match (← Activity.live).capture with
  | none => pure ()
  | some c =>
    if c.headersSent then pure ()
    else
      let tick ← Activity.readClock o.clock
      let marked ← Activity.ofExcept (c.mark tick (.table message))
      Activity.change fun live => { live with capture := some marked }

def isOfType (message : Table) (type : String) : Bool := message.get "type" == .text type

/-- Is the message the last part of a body? -/
def endsBody (message : Table) : Bool :=
  isOfType message "http.response.body" && !(message.get "more_body").isTruthy

/-- Forwards a message to the host. The start of the response is recorded
before, and the exchange finishes after the last part of the body. -/
def forward (o : Observer) (i : Nat) (failing : List Nat) (message : Table) : Activity Unit := do
  let _ ← Activity.ofExcept (message.demand "type")
  if isOfType message "http.response.start" then
    (o.mark message).recover (reportFor "Failed to record response start")
  hostSend failing message
  if endsBody message then o.finish i

/-- Is the exchange passed over? It is when it is not an http exchange or when
its requested path is on the blacklist. -/
def isPassedOver (o : Observer) (scope : Table) : Except Fault Bool := do
  let type ← scope.demand "type"
  if type != .text "http" then return true
  let path ← requestedPath scope
  if !path.isHashable then throw .unsupported
  return path.isAmong o.blacklist

/-- Starts the capture of an exchange, unless it is passed over. -/
def beginCapture (o : Observer) : Activity Unit := do
  let scope := (← Activity.live).scope
  if ← Activity.ofExcept (o.isPassedOver scope) then pure ()
  else
    let tick ← Activity.readClock o.clock
    let host ← Activity.ofExcept (KeptHost.ofScope scope)
    let capture := (Capture.start tick).arm ⟨host⟩
    Activity.change fun live => { live with capture := some capture }

end Observer

end AccessLog.Gateway
