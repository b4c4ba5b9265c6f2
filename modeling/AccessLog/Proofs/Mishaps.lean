import Mathlib.Algebra.BigOperators.Fin
import AccessLog.Proofs.Invariants
import AccessLog.Proofs.Transparency

/-!
# No failure is passed over in silence

An observer deals with five kinds of failures of its own work: a start of a response
that cannot be recorded, a token that cannot be resolved, a line that cannot be rendered,
and a callback or a sink that raises a failure. These are the mishaps of an exchange
(`mishaps`). They are read off what happens in the exchange and what the participants
answer there, and not off the log.

The log tells the same mishaps (`logs_each_mishap_once`): each of them is on record once,
in order, with the failure itself, and nothing else is on record. So what an application
raises, or the host when it fails to take a message, is not logged by an observer, and the
errors on record in a run are as many as the grave mishaps in it.
-/

namespace AccessLog

/-- Is the record about something that went wrong? -/
def Record.isError (r : Record) : Bool := r.level == Level.error

namespace Gateway

/-! ## Mishaps -/

/-- A failure that an observer deals with. Two of them are told with the path of the
request, which is in its scope at that time. -/
inductive Mishap where
  /-- The start of a response cannot be recorded. -/
  | start (scope : Table) (cause : Failure)
  /-- A token cannot be resolved. -/
  | token (ref : TokenRef) (cause : Fault)
  /-- A line cannot be rendered, or the facts for it cannot be gathered. -/
  | rendering (scope : Table) (cause : Failure)
  | callback (cause : Failure)
  | sink (cause : Failure)
  deriving Repr, DecidableEq

namespace Mishap

def failure : Mishap → Failure
  | start _ cause => cause
  | token _ cause => .fault cause
  | rendering _ cause => cause
  | callback cause => cause
  | sink cause => cause

/-- What is said about a mishap. -/
def message : Mishap → Message
  | start scope _ => messageFor scope "Failed to record response start"
  | token ref _ => .text ("Failed to resolve " ++ ref.text)
  | rendering scope _ => messageFor scope "Failed to render request line"
  | callback _ => .text "Request metrics callback failed"
  | sink _ => .text "Failed to write request line"

/-- Is more amiss than a token that shows nothing? -/
def isGrave : Mishap → Bool
  | token _ _ => false
  | _ => true

/-- How a mishap is told: a grave one as an error of the gateway, and a token as a remark
for developers. The record keeps the failure. -/
def record (m : Mishap) : Record where
  level := if m.isGrave then Level.error else Level.debug
  channel := if m.isGrave then Channel.middleware else Channel.resolver
  message := m.message
  cause := some m.failure

end Mishap

/-- The mishap of a token that cannot be resolved for this exchange. -/
def Mishap.ofToken? (e : Exchange) (ref : TokenRef) : Option Mishap :=
  match ref.kind.value ref.key e with
  | .ok _ => none
  | .error cause => some (.token ref cause)

/-- The tokens that cannot be resolved at this moment, when the clock then answers so, each
as often as it occurs. -/
def Moment.unresolved (m : Moment) (t : Template) (reading : Reading) : List Mishap :=
  match Request.ofScope m.scope m.host, reading with
  | .ok request, .tick tick =>
    t.tokens.filterMap (Mishap.ofToken? ⟨request, m.response, m.marks, tick⟩)
  | _, _ => []

/-- The mishaps of an emission before the line is told. -/
def Moment.mishaps (m : Moment) (t : Template) (reading : Reading) : List Mishap :=
  m.unresolved t reading ++
    match m.rendering t reading with
    | .ok _ => []
    | .error cause => [.rendering m.scope cause]

/-- The mishaps that an event of exchange `i` brings about, at this scope and with this
event next. The clock is read for a start of a response that has been passed on, and for
an emission whose request can be read. -/
def Event.mishaps (o : Observer) (i : Nat) (scope : Table) : Event → Option Event → List Mishap
  | passed message, some (clock reading) =>
    match Observer.startsResponse message, Observer.answerTo message reading with
    | true, .error cause => [.start scope cause]
    | _, _ => []
  | finished m, some (clock reading) => m.mishaps o.template reading
  | finished m, _ =>
    match Request.ofScope m.scope m.host with
    | .ok _ => []
    | .error cause => [.rendering m.scope (.fault cause)]
  | notified tokens, _ => (o.answerOf i tokens).toList.map .callback
  | wrote line, _ => (o.sink i line).toList.map .sink
  | _, _ => []

/-- The mishaps among the events of exchange `i`, when this was its scope before. -/
def mishaps (o : Observer) (i : Nat) (scope : Table) : List Event → List Mishap
  | [] => []
  | e :: rest => e.mishaps o i scope rest.head? ++ mishaps o i (scopeAfter scope [e]) rest

def Event.record? : Event → Option Record
  | logged r => some r
  | _ => none

/-- The records among events. -/
def recordsOf (events : List Event) : List Record := events.filterMap Event.record?

/-! ## What is told of them -/

theorem recordsOf_append (events more : List Event) :
    recordsOf (events ++ more) = recordsOf events ++ recordsOf more :=
  List.filterMap_append ..

theorem recordsOf_map_logged (records : List Record) :
    recordsOf (records.map .logged) = records := by
  rw [recordsOf, List.filterMap_map]
  exact List.filterMap_some

section Mishaps

variable {o : Observer} {i : Nat} {scope : Table}

theorem Event.mishaps_of_ne_clock (e : Event) {next : Option Event}
    (h : ∀ r, next ≠ some (.clock r)) : e.mishaps o i scope next = e.mishaps o i scope none := by
  cases next with
  | none => rfl
  | some e' =>
      cases e' with
      | clock r => exact absurd rfl (h r)
      | _ => cases e <;> rfl

/-- A reading belongs to the event before it. -/
theorem mishaps_append {more : List Event} (h : ∀ r, more.head? ≠ some (.clock r))
    (events : List Event) (scope : Table) :
    mishaps o i scope (events ++ more) =
      mishaps o i scope events ++ mishaps o i (scopeAfter scope events) more := by
  induction events generalizing scope with
  | nil => rfl
  | cons e rest ih =>
      have hscope : scopeAfter scope (e :: rest) = scopeAfter (scopeAfter scope [e]) rest :=
        scopeAfter_append scope [e] rest
      have hnext : e.mishaps o i scope (rest ++ more).head? = e.mishaps o i scope rest.head? := by
        cases rest with
        | nil => exact e.mishaps_of_ne_clock h
        | cons _ _ => rfl
      rw [hscope, List.cons_append, mishaps, mishaps, hnext, ih, List.append_assoc]

theorem mishaps_map_logged (records : List Record) :
    mishaps o i scope (records.map .logged) = [] := by
  induction records with
  | nil => rfl
  | cons r rest ih => exact ih

/-- Each mishap among these events is logged once, and nothing else is. -/
def Balanced (o : Observer) (i : Nat) (scope : Table) (events : List Event) : Prop :=
  recordsOf events = (mishaps o i scope events).map Mishap.record

theorem Balanced.append {events more : List Event} (h : Balanced o i scope events)
    (hmore : Balanced o i (scopeAfter scope events) more)
    (hnext : ∀ r, more.head? ≠ some (.clock r)) : Balanced o i scope (events ++ more) := by
  rw [Balanced, recordsOf_append, mishaps_append hnext, List.map_append, h, hmore]

theorem balanced_of_isObservers {e : Event} (h : e.isObservers = false) :
    Balanced o i scope [e] := by
  cases e <;> first | rfl | cases h

/-- An event is followed by the records of what it brings about. -/
theorem balanced_cons {e : Event} {records : List Record} (he : e.record? = none)
    (h : records = (e.mishaps o i scope (records.map Event.logged).head?).map Mishap.record) :
    Balanced o i scope (e :: records.map .logged) := by
  rw [Balanced, mishaps, mishaps_map_logged, List.append_nil, ← h, recordsOf,
    List.filterMap_cons_none he]
  exact recordsOf_map_logged records

/-- Between an event and the records of what it brings about, the clock is read. -/
theorem balanced_cons_clock {e : Event} {reading : Reading} {records : List Record}
    (he : e.record? = none)
    (h : records = (e.mishaps o i scope (some (.clock reading))).map Mishap.record) :
    Balanced o i scope (e :: .clock reading :: records.map .logged) := by
  have hclock : mishaps o i (scopeAfter scope [e]) (.clock reading :: records.map .logged) = [] :=
    mishaps_map_logged records
  rw [Balanced, mishaps, hclock, List.append_nil, List.head?_cons, ← h, recordsOf,
    List.filterMap_cons_none he, List.filterMap_cons_none rfl]
  exact recordsOf_map_logged records

/-! ## What an observer tells -/

theorem aftermath_of_escaping {message : Message} {answer : Option Failure}
    (h : escaping answer = .ok ()) :
    aftermath message answer =
      (answer.toList.map (Record.ofFailure Channel.middleware message)).map .logged := by
  cases answer with
  | none => rfl
  | some cause =>
      by_cases hordinary : cause.isOrdinary = true
      · exact if_pos hordinary
      · rw [escaping, if_neg hordinary] at h
        cases h

/-- A participant is called, and what it raises is told. -/
theorem balanced_call {e : Event} {message : Message} {answer : Option Failure}
    {f : Failure → Mishap} (he : e.record? = none)
    (hmishaps : ∀ next, e.mishaps o i scope next = answer.toList.map f)
    (hf : ∀ cause, (f cause).record = .ofFailure Channel.middleware message cause)
    (hanswer : escaping answer = .ok ()) :
    Balanced o i scope (e :: aftermath message answer) := by
  rw [aftermath_of_escaping hanswer]
  refine balanced_cons he ?_
  rw [hmishaps, List.map_map]
  exact List.map_congr_left fun cause _ => (hf cause).symm

theorem balanced_notificationOf (ho : o.IsOrderly) (r : Rendering) :
    Balanced o i scope
      (o.notificationOf r ++ aftermath Observer.callbackFailed (o.answerOf i r.tokens)) := by
  cases hcallback : o.callback with
  | none =>
      rw [Observer.notificationOf, Observer.answerOf, hcallback]
      rfl
  | some f =>
      rw [Observer.notificationOf, hcallback]
      exact balanced_call rfl (fun _ => rfl) (fun _ => rfl)
        (Observer.escaping_answerOf ho.callback i r.tokens)

/-- The callback and the sink are called, and what they raise is told. -/
theorem balanced_tellingOf (ho : o.IsOrderly) (r : Rendering) :
    Balanced o i scope (o.tellingOf i r) := by
  have hsink : ∀ scope, Balanced o i scope (.wrote (Observer.lineOf r) ::
      aftermath Observer.sinkFailed (o.sink i (Observer.lineOf r))) := fun scope =>
    balanced_call rfl (fun _ => rfl) (fun _ => rfl) (escaping_of_ordinary (ho.sink i _))
  rw [Observer.tellingOf_of_escaping (Observer.escaping_answerOf ho.callback i r.tokens)]
  exact (balanced_notificationOf ho r).append (hsink _) nofun

theorem head?_tellingOf_ne_clock (r : Rendering) (reading : Reading) :
    (o.tellingOf i r).head? ≠ some (.clock reading) := by
  intro h
  rcases (o.reports_tellingOf i r).records _ (List.mem_of_head? h) with hreport | ⟨record, hrecord⟩
  · cases hreport
  · cases hrecord

theorem remarks_eq_map_record (t : Template) (e : Exchange) :
    t.remarks e = (t.tokens.filterMap (Mishap.ofToken? e)).map Mishap.record := by
  unfold Template.remarks Template.tokens
  induction t.segments with
  | nil => rfl
  | cons s rest ih =>
      cases s with
      | literal text => exact ih
      | token ref =>
          have htoken : (Segment.token ref).token? = some ref := rfl
          rw [List.flatMap_cons, ih, List.filterMap_cons_some htoken, List.filterMap_cons,
            Segment.remarks, TokenRef.remarks, Mishap.ofToken?]
          cases ref.kind.value ref.key e <;> rfl

theorem map_record_unresolved (m : Moment) (t : Template) (reading : Reading) :
    (m.unresolved t reading).map Mishap.record = m.remarks t reading := by
  unfold Moment.unresolved Moment.remarks
  cases Request.ofScope m.scope m.host with
  | error cause => rfl
  | ok request =>
      cases reading with
      | fails cause => rfl
      | tick tick => exact (remarks_eq_map_record t _).symm

/-- A moment with its mishaps told. Where the clock is read, the reading belongs to the
moment, and where it is not, none is needed. -/
theorem balanced_finished {m : Moment} {reading : Reading} {records : List Record}
    (h : records = (m.mishaps o.template reading).map Mishap.record) :
    Balanced o i scope (.finished m :: (m.lookUp reading ++ records.map .logged)) := by
  unfold Moment.lookUp
  cases hrequest : Request.ofScope m.scope m.host with
  | ok request => exact balanced_cons_clock rfl h
  | error cause =>
      have hmishaps : m.mishaps o.template reading = [.rendering m.scope (.fault cause)] := by
        simp only [Moment.mishaps, Moment.unresolved, Moment.rendering, hrequest, List.nil_append]
      have hunread : ∀ next, (∀ r, next ≠ some (.clock r)) →
          (Event.finished m).mishaps o i scope next = [.rendering m.scope (.fault cause)] := by
        intro next hnext
        rw [Event.mishaps_of_ne_clock _ hnext, Event.mishaps, hrequest]
        rintro r ⟨⟩
      rw [hmishaps] at h
      refine balanced_cons rfl ?_
      rw [hunread _ (by simp [h]), h]

/-- In an emission, what cannot be resolved, rendered, handed over or written is told. -/
theorem balanced_emission (ho : o.IsOrderly) (m : Moment) (n : Nat) :
    Balanced o i scope (.finished m :: (m.lookUp (o.clock n) ++ o.emissionOf i m (o.clock n))) := by
  have hremarks := map_record_unresolved m o.template (o.clock n)
  unfold Observer.emissionOf
  cases hrendering : m.rendering o.template (o.clock n) with
  | ok r =>
      have hfinished : Balanced o i scope (.finished m :: (m.lookUp (o.clock n) ++
          (m.remarks o.template (o.clock n)).map .logged)) :=
        balanced_finished (by rw [Moment.mishaps, hrendering, List.append_nil, hremarks])
      rw [← List.append_assoc, ← List.cons_append]
      exact hfinished.append (balanced_tellingOf ho r) (head?_tellingOf_ne_clock r)
  | error cause =>
      have hescaping : escaping (some cause) = .ok () := by
        have hemission := ho.escapingOf i m n
        rw [hrendering] at hemission
        exact hemission
      dsimp only
      rw [aftermath_of_escaping hescaping, ← List.map_append]
      refine balanced_finished ?_
      rw [Moment.mishaps, hrendering, List.map_append, hremarks]
      rfl

/-- The start of a response that cannot be recorded is told. -/
theorem balanced_falseStart (ho : o.IsOrderly) {message : Table}
    (hm : Observer.startsResponse message = true) {n : Nat} {cause : Failure}
    (hcause : Observer.answerTo message (o.clock n) = .error cause) :
    Balanced o i scope (.passed message :: .clock (o.clock n) ::
      aftermath (messageFor scope "Failed to record response start") (some cause)) := by
  rw [aftermath_of_escaping (ho.escaping_answerTo hcause)]
  refine balanced_cons_clock rfl ?_
  rw [Event.mishaps, hm, hcause]
  rfl

/-- The start of a response is recorded, and there is nothing to tell. -/
theorem balanced_start {message : Table} {tick : Value} {response : Response}
    (hstart : Response.ofStart (.table message) = .ok response) :
    Balanced o i scope [.passed message, .clock (.tick tick)] := by
  have hnone : (Event.passed message).mishaps o i scope (some (.clock (.tick tick))) = [] := by
    rw [Event.mishaps, Observer.answerTo, hstart]
    cases Observer.startsResponse message <;> rfl
  show Balanced o i scope (.passed message :: .clock (.tick tick) :: [].map .logged)
  exact balanced_cons_clock rfl (by rw [hnone]; rfl)

/-! ## What an exchange keeps -/

theorem scopeAfter_of_outside {events : List Event} (h : outside events = []) :
    scopeAfter scope events = scope := by
  refine (scopeAfter_eq_or_mem scope events).resolve_right fun hmem => ?_
  have hout : Event.changed (scopeAfter scope events) ∈ outside events :=
    List.mem_filter.mpr ⟨hmem, rfl⟩
  rw [h] at hout
  cases hout

/-- Every mishap so far is on record, the scope is what it has become, and a capture has
its emission armed. -/
structure Accounted (o : Observer) (i : Nat) (scope : Table) (events : List Event) (l : Live) :
    Prop where
  balanced : Balanced o i scope events
  scope : l.scope = scopeAfter scope events
  armed : ∀ c, l.capture = some c → ∃ emission, c.handler = some emission

section Accounted

variable {events more : List Event} {l l' : Live} {message : Table}

theorem Accounted.append (h : Accounted o i scope events l) (hmore : Balanced o i l.scope more)
    (hnext : ∀ r, more.head? ≠ some (.clock r)) (hscope : l'.scope = scopeAfter l.scope more)
    (harmed : ∀ c, l'.capture = some c → ∃ emission, c.handler = some emission) :
    Accounted o i scope (events ++ more) l' where
  balanced := h.balanced.append (h.scope ▸ hmore) hnext
  scope := by rw [hscope, h.scope, scopeAfter_append]
  armed := harmed

/-- What is not the observer's doing brings no mishap about. -/
theorem Accounted.outside (h : Accounted o i scope events l) {e : Event}
    (he : e.isObservers = false) (hscope : l'.scope = scopeAfter l.scope [e])
    (harmed : ∀ c, l'.capture = some c → ∃ emission, c.handler = some emission) :
    Accounted o i scope (events ++ [e]) l' := by
  refine h.append (balanced_of_isObservers he) (fun r hr => ?_) hscope harmed
  obtain rfl := Option.some.inj hr
  cases he

theorem leads_marking_accounted (ho : o.IsOrderly)
    (hm : Observer.startsResponse message = true) :
    Leads (After (.passed message) (Accounted o i scope)) (o.marking message)
      (fun _ => Accounted o i scope) (Accounted o i scope) := by
  refine leads_of_always ?_
  rintro _ reads l ⟨before, rfl, h⟩
  rcases o.marking_cases message reads l with
    ⟨-, hout⟩ | ⟨c, hc, -, ⟨tick, response, -, hstart, hout⟩ | ⟨cause, hcause, hout⟩⟩
  · rw [hout, List.append_nil]
    exact h.outside rfl rfl h.armed
  · rw [hout, List.append_assoc]
    refine h.append (balanced_start hstart) nofun rfl ?_
    rintro _ ⟨⟩
    exact h.armed c hc
  · rw [hout, List.append_assoc]
    refine h.append (balanced_falseStart ho hm hcause) nofun ?_ h.armed
    exact (scopeAfter_of_mute (onlyLogged_aftermath _ (some cause)).plain.mute).symm

theorem leads_finish_accounted (ho : o.IsOrderly) :
    Leads (Accounted o i scope) (o.finish i) (fun _ => Accounted o i scope)
      (Accounted o i scope) := by
  refine leads_of_always fun events reads l h => ?_
  rcases Observer.finish_cases l with hfinished | ⟨c, hc, hf, -⟩
  · rw [o.finish_of_finished i hfinished, List.append_nil]
    exact h
  · obtain ⟨emission, hh⟩ := h.armed c hc
    rw [o.finish_apply_of_armed i hc hf hh]
    refine h.append (balanced_emission ho _ reads) nofun ?_ ?_
    · refine (scopeAfter_of_outside ?_).symm
      show Gateway.outside (_ ++ _) = []
      rw [outside_append, outside_lookUp, (o.account_emissionOf i _ _).outside]
      rfl
    · rintro _ ⟨⟩
      exact ⟨emission, hh⟩

theorem leads_hostSend_accounted (failing : List Nat) :
    Leads (Accounted o i scope) (hostSend failing message) (fun _ => Accounted o i scope)
      (Accounted o i scope) := by
  refine leads_of_always fun events reads l h => ?_
  rw [hostSend_apply]
  split <;> exact h.outside rfl rfl h.armed

theorem leads_forward_accounted (ho : o.IsOrderly) (failing : List Nat) (message : Table) :
    Leads (After (.passed message) (Accounted o i scope)) (o.forward i failing message)
      (fun _ => Accounted o i scope) (Accounted o i scope) := by
  have hpassed : ∀ events l, After (.passed message) (Accounted o i scope) events l →
      Accounted o i scope events l := by
    rintro _ l ⟨before, rfl, h⟩
    exact h.outside rfl rfl h.armed
  exact leads_forward_of (fun _ _ => hpassed)
    (leads_beforeSend_of hpassed (leads_marking_accounted ho)) (leads_hostSend_accounted failing)
    (leads_afterSend_of (leads_finish_accounted ho))

theorem kept_accounted (ho : o.IsOrderly) (failing : List Nat) :
    Kept (Accounted o i scope) (sendOf (some o) i failing) where
  plain {e _ l} he hobservers _ h :=
    h.outside hobservers (scopeAfter_of_mute (Plain.singleton he).mute).symm h.armed
  changed {f scope' events l} _ h := by
    refine h.outside rfl rfl fun c hc => ?_
    obtain ⟨c', hc', rfl⟩ := Option.map_eq_some_iff.mp hc
    obtain ⟨emission, hh⟩ := h.armed c' hc'
    exact ⟨⟨f emission.host⟩, by rw [Capture.mapHandler, hh]; rfl⟩
  sent message := by
    refine leads_sendOf (leads_forward_accounted ho failing message) ?_
    rintro _ reads l ⟨⟨before, rfl, h⟩, -⟩
    exact leads_hostSend_accounted failing _ reads l (h.outside rfl rfl h.armed)

theorem accounted_beginCapture (o : Observer) (i : Nat) (scope : Table) (reads : Nat) :
    Accounted o i scope (o.beginCapture reads ⟨scope, 0, none⟩).events
      (o.beginCapture reads ⟨scope, 0, none⟩).live := by
  rw [o.beginCapture_apply]
  dsimp only
  split
  · exact ⟨rfl, rfl, nofun⟩
  · exact ⟨rfl, rfl, nofun⟩
  · split
    · exact ⟨rfl, rfl, nofun⟩
    · split
      · exact ⟨rfl, rfl, nofun⟩
      · refine ⟨rfl, rfl, ?_⟩
        rintro _ ⟨⟩
        exact ⟨_, rfl⟩

end Accounted

/-- Each mishap of an exchange is logged once, and nothing else is. -/
theorem balanced_own (ho : o.IsOrderly) {courses : List Course} {steps : List AppStep}
    {failing : List Nat} (hc : courses[i]? = some (.ofScript scope steps failing))
    (schedule : List Signal) : Balanced o i scope (own i (trace (some o) courses schedule)) := by
  obtain ⟨l, h⟩ := trace_keeps hc schedule ⟨rfl, rfl, nofun⟩ (accounted_beginCapture o i scope)
    (kept_accounted ho failing) (leads_finish_accounted ho)
  exact h.balanced

end Mishaps

/-! ## Whole runs -/

/-- What is counted in a run is counted exchange by exchange. -/
theorem countP_eq_sum_own (p : Event → Bool) {n : Nat} {events : List Tagged}
    (h : ∀ e ∈ events, e.1 < n) :
    (events.map Prod.snd).countP p = ∑ i : Fin n, (own i events).countP p := by
  induction events with
  | nil => simp [own]
  | cons e rest ih =>
      obtain ⟨hlt, hrest⟩ := List.forall_mem_cons.mp h
      have hown : ∀ i : Fin n, (own i (e :: rest)).countP p =
          (own i rest).countP p + if ⟨e.1, hlt⟩ = i then (if p e.2 then 1 else 0) else 0 := by
        intro i
        rw [own_cons]
        by_cases hi : e.1 = i
        · rw [if_pos hi, if_pos (Fin.ext hi), List.countP_cons]
        · rw [if_neg hi, if_neg fun h => hi (congrArg Fin.val h), Nat.add_zero]
      rw [List.map_cons, List.countP_cons, ih hrest, Finset.sum_congr rfl fun i _ => hown i,
        Finset.sum_add_distrib, Finset.sum_ite_eq, if_pos (Finset.mem_univ _)]

theorem countP_recordsOf (p : Record → Bool) (events : List Event) :
    (recordsOf events).countP p = events.countP fun e => e.record?.any p := by
  rw [recordsOf, List.countP_filterMap]
  refine congrArg (List.countP · events) (funext fun e => ?_)
  cases e.record? <;> rfl

theorem Mishap.isError_record (m : Mishap) : m.record.isError = m.isGrave := by
  cases m <;> rfl

/-- **Every mishap is on record once.** Let the clock, the callback and the sink raise
nothing but ordinary failures. Then the records of an exchange are its mishaps, one by one
and in order: the starts that cannot be recorded, the tokens that cannot be resolved, and
the line that cannot be rendered, handed to the callback or written. Each record keeps the
failure. So the errors on record in a run are as many as its grave mishaps. -/
theorem logs_each_mishap_once {o : Observer} (ho : o.IsOrderly) {courses : List Course}
    (hcourses : ∀ c ∈ courses, ∃ scope steps failing, c = .ofScript scope steps failing)
    (schedule : List Signal) :
    (∀ i c, courses[i]? = some c →
      recordsOf (own i (trace (some o) courses schedule)) =
        (mishaps o i c.live.scope (own i (trace (some o) courses schedule))).map Mishap.record) ∧
    (recordsOf ((trace (some o) courses schedule).map Prod.snd)).countP Record.isError =
      ∑ i : Fin courses.length,
        (mishaps o i courses[i].live.scope (own i (trace (some o) courses schedule))).countP
          Mishap.isGrave := by
  have hbalanced : ∀ i c, courses[i]? = some c →
      recordsOf (own i (trace (some o) courses schedule)) =
        (mishaps o i c.live.scope (own i (trace (some o) courses schedule))).map Mishap.record := by
    intro i c hc
    obtain ⟨scope, steps, failing, rfl⟩ := hcourses c (List.mem_of_getElem? hc)
    exact balanced_own ho hc schedule
  have hindex : ∀ e ∈ trace (some o) courses schedule, e.1 < courses.length :=
    State.index_lt_of_mem_run (some o) _ ⟨0, courses⟩
  refine ⟨hbalanced, ?_⟩
  rw [countP_recordsOf, countP_eq_sum_own _ hindex]
  refine Finset.sum_congr rfl fun i _ => ?_
  rw [← countP_recordsOf, hbalanced i _ (List.getElem?_eq_getElem i.isLt), List.countP_map]
  exact congrArg (List.countP · _) (funext Mishap.isError_record)

/-- An observer whose clock stops, shows a text and goes on, and whose audience is not
pleased. -/
def Observer.beset : Observer where
  template := Template.parse ":status :total-time"
  blacklist := []
  clock := Clock.ofReadings
    [.tick (.int 0), .fails (.raised .os "stopped"), .tick (.text "late"), .tick (.int 3)]
  callback := some fun _ _ => some (.raised .value "no")
  sink := fun _ _ => some (.raised .os "full")

/-- The scope of a request whose headers cannot be read. -/
def garbledScope : Table := sampleScope ++ [(.text "headers", .int 5)]

/-- Two exchanges. In the second one the host fails to take the start, and the application
fails after that. -/
def besetCourses : List Course :=
  [.ofScript sampleScope [⟨.send (sampleStart 200), false⟩, ⟨.send sampleBody, false⟩] [],
    .ofScript garbledScope
      [⟨.send (sampleStart 200), true⟩, ⟨.fail (.raised .runtime "late"), false⟩] [0]]

theorem isOrderly_beset : Observer.beset.IsOrderly where
  clock := by
    rintro (_ | _ | _ | _ | n) cause ⟨⟩
    rfl
  callback := by
    rintro _ ⟨⟩ i tokens cause ⟨⟩
    rfl
  sink := by
    rintro i line cause ⟨⟩
    rfl

theorem logs_each_mishap_once_beset :
    (∀ i c, besetCourses[i]? = some c →
      recordsOf (own i (trace (some .beset) besetCourses [])) =
        (mishaps .beset i c.live.scope (own i (trace (some .beset) besetCourses []))).map
          Mishap.record) ∧
    (recordsOf ((trace (some .beset) besetCourses []).map Prod.snd)).countP Record.isError =
      ∑ i : Fin besetCourses.length,
        (mishaps .beset i besetCourses[i].live.scope
          (own i (trace (some .beset) besetCourses []))).countP Mishap.isGrave := by
  refine logs_each_mishap_once isOrderly_beset ?_ []
  rintro c (_ | ⟨_, _ | ⟨_, ⟨⟩⟩⟩) <;> exact ⟨_, _, _, rfl⟩

example : mishaps .beset 0 sampleScope (own 0 (trace (some .beset) besetCourses [])) =
    [.start sampleScope (.raised .os "stopped"),
      .token ⟨.totalTime, ":total-time", none⟩ .unsupported, .callback (.raised .value "no"),
      .sink (.raised .os "full")] := by
  decide +kernel

example : mishaps .beset 1 garbledScope (own 1 (trace (some .beset) besetCourses [])) =
    [.rendering garbledScope (.fault .unsupported)] := by
  decide +kernel

end Gateway

end AccessLog
