import AccessLog.Demo.Answer
import AccessLog.Gateway.Course
import AccessLog.Gateway.Setup
import AccessLog.LogSink

/-!
# The demo service

The demo service is an application behind an observer. Requests come one after
the other and share the clock and the source of random numbers. Around it all a
guard answers for an application that fails before it has begun to answer. Lines
go to a log unless another sink is given, and tokens to another log unless there
is another callback. A service that is not configured properly refuses every
request.
-/

namespace AccessLog.Demo

open Gateway (Event Observer)

structure Service where
  observer : Observer
  /-- Are tokens logged, in place of a callback? -/
  logsTokens : Bool
  /-- The log that lines go to, in place of a sink. -/
  log : Option LogSink
  /-- The random numbers, in the order in which they are drawn. -/
  random : Nat → Value

inductive Visit where
  /-- Starts it and stops it. -/
  | lifespan
  | request (r : Request)
  deriving Repr

inductive Ending where
  | returned
  | failed (cause : Failure)
  | refused (reason : OptionsFailure)
  deriving Repr

/-- The random numbers that are drawn from a list, the last one again and
again. -/
def draw (values : List Value) (n : Nat) : Value :=
  match values[n]? with
  | some v => v
  | none => values.getLast?.getD (.float (.ofQuotient false 1 2))

/-- The record of the tokens of a line. A map with entries is kept beside the
message. -/
def tokensRecord (tokens : Named String) : Record :=
  let message : Message :=
    if tokens.isEmpty then .text "Request metrics: \x7b\x7d"
    else .withMap "Request metrics: %s" (tokens.map fun (name, v) => (.text name, .text v))
  ⟨Level.debug, Channel.service, message, none⟩

/-- A record of the life of the service. -/
def lifeRecord (message : String) : Record :=
  ⟨Level.info, Channel.service, .text message, none⟩

def lifespanEvents : List Event := [
  .logged (lifeRecord "Metriker demo started"),
  .sent [(.text "type", .text "lifespan.startup.complete")],
  .logged (lifeRecord "Metriker demo stopped"),
  .sent [(.text "type", .text "lifespan.shutdown.complete")]]

def steps : Except Fault Answer → List Gateway.AppStep
  | .ok a => [⟨.send a.start, false⟩, ⟨.send a.content, false⟩]
  | .error cause => [⟨.fail (.fault cause), false⟩]

/-- Sends the answer for an application that has failed before it has begun to
answer, when the failure is an ordinary one. -/
def guardEvents (events : List Event) : Except Failure Gateway.Progress → List Event
  | .ok _ => []
  | .error cause =>
    let hasStarted := events.any fun
      | .sent message => Observer.isOfType message "http.response.start"
      | _ => false
    if cause.isOrdinary && !hasStarted then
      [.sent Answer.serverError.start, .sent Answer.serverError.content]
    else []

/-- The reads of the clock and the random numbers drawn so far. -/
structure Usage where
  reads : Nat
  draws : Nat
  deriving Repr

namespace Service

/-- The demo service under its settings. Its observer always has somebody to
tell about tokens: the log, unless there is a callback. -/
def create (settings : Settings) (output : Output) (p : Gateway.Participants)
    (log : Option LogSink) (random : List Value) : Except OptionsFailure Service := do
  let callback := p.callback.getD fun _ _ => none
  let observer ← Observer.configure .null .null output { p with callback := some callback } settings
  return { observer, logsTokens := p.callback.isNone, log, random := draw random }

/-- What an event looks like from outside. The application is part of the
service, so nobody sees it being entered. -/
def shown (s : Service) : Event → List Event
  | .entered _ => []
  | .notified tokens =>
    if s.logsTokens then [.logged (tokensRecord tokens)] else [.notified tokens]
  | .wrote line =>
    match s.log with
    | none => [.wrote line]
    | some sink =>
      match sink.write Level.debug (.text line) with
      | .ok record => record.toList.map .logged
      | .error _ => []
  | e => if e.isVisible then [e] else []

def answer (s : Service) (u : Usage) (r : Request) : (List Event × Ending) × Usage :=
  let steps := steps (Answer.ofRequest r (s.random u.draws))
  let o := Gateway.begin (some s.observer) 0 [] steps u.reads ⟨r.scope, 0, none⟩
  let isEntered := o.events.any fun
    | .entered _ => true
    | _ => false
  let events := o.events.flatMap s.shown
  let ending : Ending :=
    match o.result with
    | .ok _ => .returned
    | .error cause => .failed cause
  ((events ++ guardEvents events o.result, ending),
    ⟨o.reads, if isEntered && r.draws then u.draws + 1 else u.draws⟩)

def serveFrom (s : Service) (u : Usage) : List Visit → List (List Event × Ending)
  | [] => []
  | .lifespan :: rest => (lifespanEvents, .returned) :: serveFrom s u rest
  | .request r :: rest =>
    let (result, u) := s.answer u r
    result :: serveFrom s u rest

end Service

/-- Serves visits, or refuses all of them. -/
def serve (service : Except OptionsFailure Service) (visits : List Visit) :
    List (List Event × Ending) :=
  match service with
  | .ok s => s.serveFrom ⟨0, 0⟩ visits
  | .error reason => visits.map fun _ => ([], .refused reason)

end AccessLog.Demo
