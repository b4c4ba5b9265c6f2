import AccessLog.Gateway.Schedule

/-!
# What an observer does, step by step

Each activity of an observer ends in one of a few ways, and this file says which: in
full for the host, for the callback and the sink, and for an emission
(`hostSend_apply`, `tell_apply`, `emit_apply`), and by cases for a start that is
marked (`marking_cases`). Nothing later looks into these activities again; the proofs
about whole exchanges split on what is stated here.

A moment together with the reading of the clock that follows it decides what an
emission is: `Moment.rendering` is the rendering, or the failure in its place,
`Observer.emissionOf` is what the emission leaves, and `Observer.reportsOf` is what the
callback and the sink get to see of it.
-/

namespace AccessLog.Gateway

namespace Activity

variable {α β : Type}

/-! ## Carrying out activities -/

@[simp] theorem live_bind_apply (f : Live → Activity α) (reads : Nat) (l : Live) :
    (live >>= f) reads l = f l reads l := rfl

@[simp] theorem change_bind_apply (g : Live → Live) (f : Unit → Activity α)
    (reads : Nat) (l : Live) : (change g >>= f) reads l = f () reads (g l) := rfl

@[simp] theorem leave_bind_apply (e : Event) (f : Unit → Activity α)
    (reads : Nat) (l : Live) :
    (leave e >>= f) reads l =
      { f () reads l with events := e :: (f () reads l).events } := rfl

@[simp] theorem leave_apply (e : Event) (reads : Nat) (l : Live) :
    leave e reads l = ⟨[e], reads, l, .ok ()⟩ := rfl

@[simp] theorem change_apply (g : Live → Live) (reads : Nat) (l : Live) :
    change g reads l = ⟨[], reads, g l, .ok ()⟩ := rfl

@[simp] theorem fail_apply (cause : Failure) (reads : Nat) (l : Live) :
    (fail cause : Activity α) reads l = ⟨[], reads, l, .error cause⟩ := rfl

@[simp] theorem ofExcept_apply (x : Except Fault α) (reads : Nat) (l : Live) :
    Activity.ofExcept x reads l = ⟨[], reads, l, x.mapError .fault⟩ := by
  cases x <;> rfl

@[simp] theorem ofExcept_ok_bind (a : β) (f : β → Activity α) :
    (Activity.ofExcept (.ok a) >>= f) = f a := pure_andThen a f

@[simp] theorem ofExcept_error_bind_apply (cause : Fault) (f : β → Activity α)
    (reads : Nat) (l : Live) :
    (Activity.ofExcept (.error cause) >>= f) reads l =
      ⟨[], reads, l, .error (.fault cause)⟩ := rfl

/-- A read of the clock leaves its answer, and a failure of it goes on. -/
theorem readClock_bind_apply (clock : Clock) (f : Value → Activity α) (reads : Nat) (l : Live) :
    (readClock clock >>= f) reads l =
      match clock reads with
      | .tick tick =>
        { f tick (reads + 1) l with
          events := .clock (.tick tick) :: (f tick (reads + 1) l).events }
      | .fails cause => ⟨[.clock (.fails cause)], reads + 1, l, .error cause⟩ := by
  cases h : clock reads <;> simp [bind_apply, andThen, readClock, h]

theorem attempt_bind_apply (x : Activity α) (f : Except Failure α → Activity β)
    (reads : Nat) (l : Live) :
    (x.attempt >>= f) reads l =
      { f (x reads l).result (x reads l).reads (x reads l).live with
        events := (x reads l).events ++
          (f (x reads l).result (x reads l).reads (x reads l).live).events } := rfl

/-- Only a success of both activities is a success of the two together. -/
theorem bind_result_eq_ok {x : Activity β} {f : β → Activity α} {reads : Nat} {l : Live} {b : α}
    (h : ((x >>= f) reads l).result = .ok b) :
    ∃ a, (x reads l).result = .ok a ∧ (f a (x reads l).reads (x reads l).live).result = .ok b := by
  cases hx : (x reads l).result with
  | ok a =>
      rw [bind_apply_of_ok hx] at h
      exact ⟨a, rfl, h⟩
  | error cause =>
      rw [bind_apply_of_error hx] at h
      cases h

/-- A success is not recovered from, and neither is a failure that is not
ordinary. -/
theorem recover_apply (x : Activity Unit) (handle : Failure → Activity Unit)
    (reads : Nat) (l : Live) :
    x.recover handle reads l =
      match (x reads l).result with
      | .ok () => x reads l
      | .error cause =>
        if cause.isOrdinary then
          { handle cause (x reads l).reads (x reads l).live with
            events := (x reads l).events ++
              (handle cause (x reads l).reads (x reads l).live).events }
        else x reads l := by
  unfold recover
  rw [attempt_bind_apply]
  generalize x reads l = o
  obtain ⟨events, reads', l', result⟩ := o
  cases result with
  | ok a => simp [pure_apply]
  | error cause =>
      by_cases h : cause.isOrdinary = true <;> simp [h]

end Activity

open Activity

/-! ## The host -/

/-- Why a host that fails to take a message fails. -/
def hostFailure : Failure := .raised .os "client gone"

/-- The host takes a message or fails to, and counts it in both cases. -/
theorem hostSend_apply (failing : List Nat) (message : Table) (reads : Nat) (l : Live) :
    hostSend failing message reads l =
      if failing.contains l.sends then
        ⟨[.sendFailed message], reads, { l with sends := l.sends + 1 }, .error hostFailure⟩
      else ⟨[.sent message], reads, { l with sends := l.sends + 1 }, .ok ()⟩ := by
  unfold hostSend
  rw [live_bind_apply, change_bind_apply]
  split <;> rfl

/-! ## Telling the callback and the sink -/

/-- The record of a participant's answer: one about an ordinary failure, and none
otherwise. -/
def aftermath (message : Message) : Option Failure → List Event
  | some cause =>
    if cause.isOrdinary then [.logged (.ofFailure Channel.middleware message cause)] else []
  | none => []

/-- What is left of a participant's answer: only a failure that is not ordinary
goes on. -/
def escaping : Option Failure → Except Failure Unit
  | some cause => if cause.isOrdinary then .ok () else .error cause
  | none => .ok ()

theorem escaping_some {cause : Failure} (h : cause.isOrdinary = true) :
    escaping (some cause) = .ok () :=
  if_pos h

theorem escaping_of_ordinary {answer : Option Failure}
    (h : ∀ cause, answer = some cause → cause.isOrdinary = true) : escaping answer = .ok () := by
  cases answer with
  | none => rfl
  | some cause => exact escaping_some (h cause rfl)

namespace Observer

/-- What is logged when the callback fails, when the sink fails, and when there is
nothing to tell them. -/
def callbackFailed : Message := .text "Request metrics callback failed"

def sinkFailed : Message := .text "Failed to write request line"

def renderingFailed (scope : Table) : Message := messageFor scope "Failed to render request line"

theorem reportFor_apply (message : String) (cause : Failure) (reads : Nat) (l : Live) :
    reportFor message cause reads l =
      ⟨[.logged (.ofFailure Channel.middleware (messageFor l.scope message) cause)],
        reads, l, .ok ()⟩ := rfl

/-- An event that calls a participant, with the record of its answer. -/
theorem tell_apply (e : Event) (answer : Option Failure) (message : Message)
    (reads : Nat) (l : Live) :
    ((do leave e; raise answer).recover (report message)) reads l =
      ⟨e :: aftermath message answer, reads, l, escaping answer⟩ := by
  rw [recover_apply, leave_bind_apply]
  cases answer with
  | none => rfl
  | some cause =>
      by_cases h : cause.isOrdinary = true <;>
        simp [raise, report, aftermath, escaping, h]

theorem write_apply (o : Observer) (i : Nat) (line : String) (reads : Nat) (l : Live) :
    o.write i line reads l =
      ⟨.wrote line :: aftermath sinkFailed (o.sink i line),
        reads, l, escaping (o.sink i line)⟩ :=
  tell_apply ..

end Observer

/-! ## Emitting a line -/

namespace Moment

/-- The read of the clock that follows a moment: it comes after the request. -/
def lookUp (m : Moment) (reading : Reading) : List Event :=
  match Request.ofScope m.scope m.host with
  | .ok _ => [.clock reading]
  | .error _ => []

/-- The rendering at a moment, when the clock then answers so, or the failure in
its place. -/
def rendering (m : Moment) (t : Template) (reading : Reading) : Except Failure Rendering :=
  match Request.ofScope m.scope m.host, reading with
  | .error cause, _ => .error (.fault cause)
  | .ok _, .fails cause => .error cause
  | .ok request, .tick tick => (t.render ⟨request, m.response, m.marks, tick⟩).mapError .fault

/-- The remarks about tokens that cannot be resolved in it. -/
def remarks (m : Moment) (t : Template) (reading : Reading) : List Record :=
  match Request.ofScope m.scope m.host, reading with
  | .ok request, .tick tick => t.remarks ⟨request, m.response, m.marks, tick⟩
  | _, _ => []

end Moment

namespace Event

/-- Does the callback or the sink get to see the event? -/
def isReport : Event → Bool
  | notified _ => true
  | wrote _ => true
  | _ => false

/-- Is a line about to be emitted, or does the callback or the sink get to see
one? -/
def isEmission : Event → Bool
  | finished _ => true
  | notified _ => true
  | wrote _ => true
  | _ => false

theorem isEmission_of_isReport {e : Event} (h : e.isReport = true) : e.isEmission = true := by
  cases e <;> simp_all [isReport, isEmission]

end Event

namespace Observer

/-- The text that is written for a rendering. -/
def lineOf (r : Rendering) : String := r.line ++ "\n"

/-- The answer of the callback, if there is one. -/
def answerOf (o : Observer) (i : Nat) (tokens : Named String) : Option Failure :=
  o.callback.bind fun callback => callback i tokens

/-- What the callback gets to see of a rendering, if there is one. -/
def notificationOf (o : Observer) (r : Rendering) : List Event :=
  if o.callback.isSome then [.notified r.tokens] else []

/-- What the callback and the sink get to see of a rendering: the callback is
told first, and only a failure of it that is not ordinary keeps the line from
being written. -/
def reportsOf (o : Observer) (i : Nat) : Except Failure Rendering → List Event
  | .error _ => []
  | .ok r =>
    match escaping (o.answerOf i r.tokens) with
    | .ok () => o.notificationOf r ++ [.wrote (lineOf r)]
    | .error _ => o.notificationOf r

/-- What is left of telling about a rendering. -/
def tellingOf (o : Observer) (i : Nat) (r : Rendering) : List Event :=
  o.notificationOf r ++ aftermath callbackFailed (o.answerOf i r.tokens) ++
    match escaping (o.answerOf i r.tokens) with
    | .ok () => .wrote (lineOf r) :: aftermath sinkFailed (o.sink i (lineOf r))
    | .error _ => []

/-- What an emission leaves after the look-up of the clock. -/
def emissionOf (o : Observer) (i : Nat) (m : Moment) (reading : Reading) : List Event :=
  (m.remarks o.template reading).map .logged ++
    match m.rendering o.template reading with
    | .ok r => o.tellingOf i r
    | .error cause => aftermath (renderingFailed m.scope) (some cause)

/-- The failure of an emission, if it has one that is not dealt with. -/
def escapingOf (o : Observer) (i : Nat) : Except Failure Rendering → Except Failure Unit
  | .error cause => escaping (some cause)
  | .ok r => do
    escaping (o.answerOf i r.tokens)
    escaping (o.sink i (lineOf r))

/-- From a callback that raises nothing but ordinary failures, nothing escapes. -/
theorem escaping_answerOf {o : Observer}
    (h : ∀ f, o.callback = some f →
      ∀ i tokens cause, f i tokens = some cause → cause.isOrdinary = true)
    (i : Nat) (tokens : Named String) : escaping (o.answerOf i tokens) = .ok () := by
  refine escaping_of_ordinary fun cause hcause => ?_
  obtain ⟨f, hf, hanswer⟩ := Option.bind_eq_some_iff.mp hcause
  exact h f hf i tokens cause hanswer

/-- What is told of a rendering when nothing escapes from the callback. -/
theorem tellingOf_of_escaping {o : Observer} {i : Nat} {r : Rendering}
    (h : escaping (o.answerOf i r.tokens) = .ok ()) :
    o.tellingOf i r =
      o.notificationOf r ++ aftermath callbackFailed (o.answerOf i r.tokens) ++
        .wrote (lineOf r) :: aftermath sinkFailed (o.sink i (lineOf r)) := by
  simp only [tellingOf, h]

/-- Nothing escapes from telling about a rendering when nothing does from the callback or the
sink. -/
theorem escapingOf_of_escaping {o : Observer} {i : Nat} {r : Rendering}
    (h : escaping (o.answerOf i r.tokens) = .ok ())
    (hsink : escaping (o.sink i (lineOf r)) = .ok ()) : o.escapingOf i (.ok r) = .ok () := by
  simp only [escapingOf, h, hsink]
  rfl

end Observer

/-- Events that only log. -/
def OnlyLogged (events : List Event) : Prop := ∀ e ∈ events, ∃ record, e = .logged record

theorem onlyLogged_map (records : List Record) : OnlyLogged (records.map .logged) := by
  intro e he
  obtain ⟨record, -, rfl⟩ := List.mem_map.mp he
  exact ⟨record, rfl⟩

theorem onlyLogged_aftermath (message : Message) (answer : Option Failure) :
    OnlyLogged (aftermath message answer) := by
  cases answer with
  | none => exact onlyLogged_map []
  | some cause =>
      by_cases h : cause.isOrdinary = true
      · simpa [aftermath, h] using onlyLogged_map [.ofFailure Channel.middleware message cause]
      · simpa [aftermath, h] using onlyLogged_map []

/-- Events that only log, but for those that the callback or the sink get to see,
which are these. -/
structure Reports (events reports : List Event) : Prop where
  records : ∀ e ∈ events, e.isReport = true ∨ ∃ record, e = .logged record
  filter : events.filter Event.isReport = reports

theorem OnlyLogged.reports {events : List Event} (h : OnlyLogged events) :
    Reports events [] where
  records e he := Or.inr (h e he)
  filter := by
    rw [List.filter_eq_nil_iff]
    intro e he
    obtain ⟨record, rfl⟩ := h e he
    exact Bool.false_ne_true

theorem Reports.append {events more reports others : List Event}
    (h : Reports events reports) (h' : Reports more others) :
    Reports (events ++ more) (reports ++ others) where
  records e he := (List.mem_append.mp he).elim (h.records e) (h'.records e)
  filter := by rw [List.filter_append, h.filter, h'.filter]

theorem Reports.cons {e : Event} {logs : List Event} (he : e.isReport = true)
    (h : OnlyLogged logs) : Reports (e :: logs) [e] where
  records e' he' :=
    (List.mem_cons.mp he').elim (fun heq => Or.inl (heq ▸ he)) (h.reports.records e')
  filter := by rw [List.filter_cons_of_pos he, h.reports.filter]

namespace Observer

/-- What follows the look-up of the clock in an emission. -/
def Account (o : Observer) (i : Nat) (m : Moment) (reading : Reading)
    (events : List Event) : Prop :=
  Reports events (o.reportsOf i (m.rendering o.template reading))

theorem forM_logged_apply (records : List Record) (reads : Nat) (l : Live) :
    (records.forM fun record => leave (.logged record)) reads l =
      ⟨records.map .logged, reads, l, .ok ()⟩ := by
  induction records with
  | nil => rfl
  | cons record rest ih =>
      show (leave (.logged record) >>= fun _ => rest.forM fun r => leave (.logged r)) reads l = _
      rw [leave_bind_apply, ih]
      rfl

theorem render_apply (o : Observer) (emission : Emission) (c : Capture Emission)
    (reads : Nat) (l : Live) :
    o.render emission c reads l =
      ⟨(momentOf l emission c).lookUp (o.clock reads) ++
          ((momentOf l emission c).remarks o.template (o.clock reads)).map .logged,
        reads + ((momentOf l emission c).lookUp (o.clock reads)).length, l,
        (momentOf l emission c).rendering o.template (o.clock reads)⟩ := by
  unfold render Moment.lookUp Moment.rendering Moment.remarks momentOf
  rw [live_bind_apply]
  dsimp only
  cases Request.ofScope l.scope emission.host.value with
  | error cause => rfl
  | ok request =>
      rw [ofExcept_ok_bind, readClock_bind_apply]
      cases o.clock reads with
      | fails cause => rfl
      | tick tick =>
          dsimp only
          rw [bind_apply_of_ok (by rw [forM_logged_apply]), forM_logged_apply]
          simp

theorem notify_apply (o : Observer) (i : Nat) (r : Rendering) (reads : Nat) (l : Live) :
    o.notify i r.tokens reads l =
      ⟨o.notificationOf r ++ aftermath callbackFailed (o.answerOf i r.tokens), reads, l,
        escaping (o.answerOf i r.tokens)⟩ := by
  unfold notify answerOf notificationOf
  cases o.callback with
  | none => rfl
  | some callback => exact tell_apply ..

/-- Telling about a rendering: the callback first, then the sink. -/
theorem tellOf_apply (o : Observer) (i : Nat) (r : Rendering) (reads : Nat) (l : Live) :
    (do o.notify i r.tokens; o.write i (lineOf r) : Activity Unit) reads l =
      ⟨o.tellingOf i r, reads, l, o.escapingOf i (.ok r)⟩ := by
  unfold tellingOf escapingOf
  cases hescape : escaping (o.answerOf i r.tokens) with
  | error cause =>
      have hfails : (o.notify i r.tokens reads l).result = .error cause := by
        rw [notify_apply, hescape]
      rw [bind_apply_of_error hfails, notify_apply, List.append_nil]
      simp only [hescape]
      rfl
  | ok _ =>
      rw [bind_apply_of_ok (a := ()) (by rw [notify_apply, hescape]), notify_apply, write_apply]
      simp only [hescape]
      rfl

/-- An emission leaves the live state as it is, and ends with what escapes from
the participants. -/
theorem emit_apply (o : Observer) (i : Nat) (emission : Emission) (c : Capture Emission)
    (reads : Nat) (l : Live) :
    o.emit i emission c reads l =
      ⟨.finished (momentOf l emission c) ::
          ((momentOf l emission c).lookUp (o.clock reads) ++
            o.emissionOf i (momentOf l emission c) (o.clock reads)),
        reads + ((momentOf l emission c).lookUp (o.clock reads)).length, l,
        o.escapingOf i ((momentOf l emission c).rendering o.template (o.clock reads))⟩ := by
  unfold emit emissionOf
  rw [live_bind_apply, leave_bind_apply, attempt_bind_apply, render_apply]
  cases (momentOf l emission c).rendering o.template (o.clock reads) with
  | ok r =>
      have htell := o.tellOf_apply i r
        (reads + ((momentOf l emission c).lookUp (o.clock reads)).length) l
      simp only [lineOf] at htell
      simp only [htell, List.append_assoc]
  | error cause =>
      by_cases h : cause.isOrdinary = true <;>
        simp [h, reportFor_apply, aftermath, escapingOf, escaping, renderingFailed, momentOf]

theorem reports_tellingOf (o : Observer) (i : Nat) (r : Rendering) :
    Reports (o.tellingOf i r) (o.reportsOf i (.ok r)) := by
  have htold : Reports (o.notificationOf r ++ aftermath callbackFailed (o.answerOf i r.tokens))
      (o.notificationOf r) := by
    have hlogs := onlyLogged_aftermath callbackFailed (o.answerOf i r.tokens)
    unfold notificationOf
    split
    · exact .cons rfl hlogs
    · exact hlogs.reports
  unfold tellingOf reportsOf
  cases hescape : escaping (o.answerOf i r.tokens) with
  | error cause => simpa only [hescape, List.append_nil] using htold
  | ok _ =>
      have hwrote := htold.append (.cons (e := .wrote (lineOf r)) rfl
        (onlyLogged_aftermath sinkFailed (o.sink i (lineOf r))))
      simpa only [hescape] using hwrote

theorem account_emissionOf (o : Observer) (i : Nat) (m : Moment) (reading : Reading) :
    o.Account i m reading (o.emissionOf i m reading) := by
  have hrecords := (onlyLogged_map (m.remarks o.template reading)).reports
  unfold Account emissionOf
  cases m.rendering o.template reading with
  | ok r => exact hrecords.append (o.reports_tellingOf i r)
  | error cause => exact hrecords.append (onlyLogged_aftermath _ _).reports

/-! ## Finishing, marking and beginning -/

/-- An exchange that is to finish has nothing left to finish, or finishes with nothing armed,
or with an emission. -/
theorem finish_cases (l : Live) :
    (∀ c, l.capture = some c → c.finished = true) ∨
      ∃ c, l.capture = some c ∧ c.finished = false ∧
        (c.handler = none ∨ ∃ emission, c.handler = some emission) := by
  by_cases hfinished : ∀ c, l.capture = some c → c.finished = true
  · exact Or.inl hfinished
  · obtain ⟨c, hc, hf⟩ : ∃ c, l.capture = some c ∧ c.finished = false := by
      simpa using hfinished
    exact Or.inr ⟨c, hc, hf, Option.eq_none_or_eq_some c.handler⟩

/-- An exchange that is not observed, or has finished, does not finish again. -/
theorem finish_of_finished (o : Observer) (i : Nat) {l : Live}
    (h : ∀ c, l.capture = some c → c.finished = true) (reads : Nat) :
    o.finish i reads l = ⟨[], reads, l, .ok ()⟩ := by
  unfold finish
  rw [live_bind_apply]
  cases hc : l.capture with
  | none => rfl
  | some c => simp [h c hc, pure_apply]

/-- With nothing armed, that an exchange finishes is only remarked. -/
theorem finish_of_unarmed (o : Observer) (i : Nat) {l : Live} {c : Capture Emission}
    (hc : l.capture = some c) (hf : c.finished = false) (hh : c.handler = none) (reads : Nat) :
    o.finish i reads l =
      ⟨[.logged unarmedRemark], reads, { l with capture := some c.finish }, .ok ()⟩ := by
  unfold finish
  rw [live_bind_apply]
  simp only [hc, hf, hh, change_bind_apply, Bool.false_eq_true, if_false]
  rfl

/-- The first time, the armed emission takes place, in an exchange that counts as
finished already. -/
theorem finish_apply_of_armed (o : Observer) (i : Nat) {l : Live} {c : Capture Emission}
    {emission : Emission} (hc : l.capture = some c) (hf : c.finished = false)
    (hh : c.handler = some emission) (reads : Nat) :
    o.finish i reads l =
      ⟨.finished (momentOf l emission c) ::
          ((momentOf l emission c).lookUp (o.clock reads) ++
            o.emissionOf i (momentOf l emission c) (o.clock reads)),
        reads + ((momentOf l emission c).lookUp (o.clock reads)).length,
        { l with capture := some c.finish },
        o.escapingOf i ((momentOf l emission c).rendering o.template (o.clock reads))⟩ := by
  unfold finish
  rw [live_bind_apply]
  simp only [hc, hf, hh, change_bind_apply, Bool.false_eq_true, if_false]
  exact o.emit_apply i emission c.finish reads { l with capture := some c.finish }

/-- Of what the armed emission leaves, the callback and the sink get to see what is told of
its rendering. -/
theorem finish_of_armed (o : Observer) (i : Nat) {l : Live} {c : Capture Emission}
    {emission : Emission} (hc : l.capture = some c) (hf : c.finished = false)
    (hh : c.handler = some emission) (reads : Nat) :
    ∃ events, o.finish i reads l =
        ⟨.finished (momentOf l emission c) ::
            ((momentOf l emission c).lookUp (o.clock reads) ++ events),
          reads + ((momentOf l emission c).lookUp (o.clock reads)).length,
          { l with capture := some c.finish },
          o.escapingOf i ((momentOf l emission c).rendering o.template (o.clock reads))⟩ ∧
      o.Account i (momentOf l emission c) (o.clock reads) events :=
  ⟨_, o.finish_apply_of_armed i hc hf hh reads, o.account_emissionOf i _ _⟩

/-- What a start that is to be marked comes to: the response that it starts, or
the failure of the clock or of its headers. -/
def answerTo (message : Table) : Reading → Except Failure (Value × Response)
  | .fails cause => .error cause
  | .tick tick => ((Response.ofStart (.table message)).map (tick, ·)).mapError .fault

/-- The marking of a start, with the record of its failure. -/
def marking (o : Observer) (message : Table) : Activity Unit :=
  (o.mark message).recover (reportFor "Failed to record response start")

/-- A start is marked in full, or not at all: nothing is left to mark, or the
tick and the response of one message are set together, or nothing changes. -/
theorem marking_cases (o : Observer) (message : Table) (reads : Nat) (l : Live) :
    ((∀ c, l.capture = some c → c.headersSent = true) ∧
        o.marking message reads l = ⟨[], reads, l, .ok ()⟩) ∨
      ∃ c, l.capture = some c ∧ c.headersSent = false ∧
        ((∃ tick response, o.clock reads = .tick tick ∧
            Response.ofStart (.table message) = .ok response ∧
            o.marking message reads l = ⟨[.clock (.tick tick)], reads + 1,
              { l with capture := some { c with headersSentAt := tick, response } }, .ok ()⟩) ∨
          ∃ cause, answerTo message (o.clock reads) = .error cause ∧
            o.marking message reads l =
              ⟨.clock (o.clock reads) :: aftermath
                  (messageFor l.scope "Failed to record response start") (some cause),
                reads + 1, l, escaping (some cause)⟩) := by
  unfold marking
  rw [recover_apply]
  unfold mark
  rw [live_bind_apply]
  cases hc : l.capture with
  | none => exact Or.inl ⟨by simp, rfl⟩
  | some c =>
      cases hs : c.headersSent with
      | true => exact Or.inl ⟨by simpa using hs, by simp [hs, pure_apply]⟩
      | false =>
          refine Or.inr ⟨c, rfl, hs, ?_⟩
          simp only [hs, Bool.false_eq_true, if_false, readClock_bind_apply]
          cases hr : o.clock reads with
          | fails cause =>
              refine Or.inr ⟨cause, rfl, ?_⟩
              by_cases h : cause.isOrdinary = true <;>
                simp [h, reportFor_apply, aftermath, escaping]
          | tick tick =>
              cases hm : Response.ofStart (.table message) with
              | ok response =>
                  refine Or.inl ⟨tick, response, rfl, rfl, ?_⟩
                  have hmark : c.mark tick (.table message) =
                      .ok { c with headersSentAt := tick, response } := by
                    simp only [Capture.mark, hm]
                    rfl
                  simp [hmark]
              | error cause =>
                  have hmark : c.mark tick (.table message) = .error cause := by
                    simp only [Capture.mark, hm]
                    rfl
                  refine Or.inr ⟨.fault cause, by simp only [answerTo, hm]; rfl, ?_⟩
                  simp [hmark, reportFor_apply, aftermath, escaping, Failure.isOrdinary]

/-- Does the message start a response? -/
def startsResponse (message : Table) : Bool := isOfType message "http.response.start"

/-- What comes before a message is handed to the host. -/
def beforeSend (o : Observer) (message : Table) : Activity Unit :=
  if startsResponse message then o.marking message else pure ()

/-- What comes after a message has been handed to the host. -/
def afterSend (o : Observer) (i : Nat) (message : Table) : Activity Unit :=
  if endsBody message then o.finish i else pure ()

/-- A message is forwarded between what comes before and what comes after. -/
theorem forward_eq (o : Observer) (i : Nat) (failing : List Nat) (message : Table) :
    o.forward i failing message = (do
      let _ ← Activity.ofExcept (message.demand "type")
      o.beforeSend message
      hostSend failing message
      o.afterSend i message) := by
  unfold forward beforeSend afterSend startsResponse marking
  by_cases hs : isOfType message "http.response.start" = true <;>
    by_cases he : endsBody message = true <;> simp [hs, he]

/-- The capture of an exchange starts when the exchange is not passed over and
both the clock and the client's host can be read. -/
theorem beginCapture_apply (o : Observer) (reads : Nat) (l : Live) :
    o.beginCapture reads l =
      match o.isPassedOver l.scope with
      | .error cause => ⟨[], reads, l, .error (.fault cause)⟩
      | .ok true => ⟨[], reads, l, .ok ()⟩
      | .ok false =>
        match o.clock reads with
        | .fails cause => ⟨[.clock (.fails cause)], reads + 1, l, .error cause⟩
        | .tick tick =>
          match KeptHost.ofScope l.scope with
          | .error cause => ⟨[.clock (.tick tick)], reads + 1, l, .error (.fault cause)⟩
          | .ok host =>
            ⟨[.clock (.tick tick)], reads + 1,
              { l with capture := some ((Capture.start tick).arm ⟨host⟩) }, .ok ()⟩ := by
  unfold beginCapture
  rw [live_bind_apply]
  cases o.isPassedOver l.scope with
  | error cause => rfl
  | ok passed =>
      cases passed with
      | true => rfl
      | false =>
          simp only [ofExcept_ok_bind, readClock_bind_apply, Bool.false_eq_true, if_false]
          cases o.clock reads with
          | fails cause => rfl
          | tick tick => cases KeptHost.ofScope l.scope <;> rfl

end Observer

end AccessLog.Gateway
