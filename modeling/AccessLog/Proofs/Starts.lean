import AccessLog.Proofs.Invariants
import AccessLog.Proofs.Written

/-!
# Which start of a response a line reports

An application may start its response more than once, and the host may fail to take a
start. A line reports the first start that is passed on and can be read
(`reports_first_start`), whether or not the host takes it: the observer records a start
before it hands it over, and records one only. So a start that the host refuses is
reported even when the application starts its response again (`reports_refused_start`).

What is known of the response is told by the events so far (`Tells`), whatever the clock
answers. Every exchange keeps this (`Tracked`), and so it holds whenever one is taken to
have finished (`finishesTold_own`).
-/

namespace AccessLog

/-- The response that a message starts has the status and the headers of the message. -/
theorem Response.ofStart_eq_ok {message : Table} {response : Response}
    (h : ofStart (.table message) = .ok response) :
    response.status = Table.get message "status" ∧
      Headers.decode (Table.get message "headers") = .ok response.headers := by
  obtain ⟨headers, hheaders, h⟩ := exists_of_bind_eq_ok h
  cases h
  exact ⟨rfl, hheaders⟩

namespace Gateway

/-! ## What the events tell about the response -/

/-- Is the start of a response passed on? -/
def Event.passesStart : Event → Bool
  | passed message => Observer.startsResponse message
  | _ => false

/-- No start of a response is passed on. -/
def Startless (events : List Event) : Prop := ∀ e ∈ events, e.passesStart = false

/-- The exchange is not taken to have finished. -/
def Unfinished (events : List Event) : Prop := ∀ e ∈ events, e.isFinished = false

/-- Each start that is passed on comes with a reading of the clock that leaves it
unrecorded: the clock or the headers fail, or the clock shows nothing. -/
def Unrecorded (o : Observer) (events : List Event) : Prop :=
  ∀ earlier message later, events = earlier ++ .passed message :: later →
    Observer.startsResponse message = true →
    ∃ n, later.head? = some (.clock (o.clock n)) ∧
      ((∃ cause, Observer.answerTo message (o.clock n) = .error cause) ∨ o.clock n = .tick .null)

/-- The first start that is recorded is this one, passed on after `earlier`. It is
recorded with this tick and then handed to the host, who takes it or fails to. -/
structure Records (o : Observer) (events earlier : List Event) (message : Table) (tick : Value)
    (response : Response) : Prop where
  split : ∃ outcome later,
    events = earlier ++ .passed message :: .clock (.tick tick) :: outcome :: later ∧
      (outcome = .sent message ∨ outcome = .sendFailed message)
  starts : Observer.startsResponse message = true
  response : Response.ofStart (.table message) = .ok response
  reading : ∃ n, o.clock n = .tick tick
  first : Unrecorded o earlier

/-- The events tell that this response has started at this tick, or that there is
none as yet. -/
structure Tells (o : Observer) (events : List Event) (response : Response) (tick : Value) :
    Prop where
  unrecorded : tick = .null → Unrecorded o events
  recorded : response = .none ∧ tick = .null ∨
    ∃ earlier message, Records o events earlier message tick response

theorem OnlyLogged.startless {events : List Event} (h : OnlyLogged events) : Startless events := by
  intro e he
  obtain ⟨record, rfl⟩ := h e he
  rfl

theorem OnlyLogged.unfinished {events : List Event} (h : OnlyLogged events) :
    Unfinished events := by
  intro e he
  obtain ⟨record, rfl⟩ := h e he
  rfl

theorem startless_of_answer {outcome : Event} {message : Table}
    (h : outcome = .sent message ∨ outcome = .sendFailed message) :
    Startless [outcome] ∧ Unfinished [outcome] := by
  rcases h with rfl | rfl <;> simp [Startless, Unfinished, Event.passesStart, Event.isFinished]

theorem startless_of_account {o : Observer} {i : Nat} {m : Moment} {reading : Reading}
    {reports : List Event} (h : o.Account i m reading reports) :
    Startless (m.lookUp reading ++ reports) ∧ Unfinished (m.lookUp reading ++ reports) := by
  have hlookUp : Startless (m.lookUp reading) ∧ Unfinished (m.lookUp reading) := by
    unfold Moment.lookUp
    split <;> simp [Startless, Unfinished, Event.passesStart, Event.isFinished]
  have hreports : Startless reports ∧ Unfinished reports := by
    refine ⟨fun e he => ?_, fun e he => (h.isObservers e he).2.1⟩
    have hobservers := (h.isObservers e he).1
    cases e <;> first | rfl | cases hobservers
  exact ⟨List.forall_mem_append.mpr ⟨hlookUp.1, hreports.1⟩,
    List.forall_mem_append.mpr ⟨hlookUp.2, hreports.2⟩⟩

section Tells

variable {o : Observer} {events more : List Event} {message : Table} {response : Response}
  {tick : Value}

/-- An event of one list after another belongs to the first or to the second. -/
theorem eq_append_cons_of_append_eq {α : Type} {xs ys before after : List α} {x : α}
    (h : xs ++ ys = before ++ x :: after) :
    (∃ later, xs = before ++ x :: later ∧ after = later ++ ys) ∨
      ∃ earlier, before = xs ++ earlier ∧ ys = earlier ++ x :: after := by
  rcases List.append_eq_append_iff.mp h with ⟨earlier, hbefore, hys⟩ | ⟨later, hxs, hcons⟩
  · exact Or.inr ⟨earlier, hbefore, hys⟩
  · cases later with
    | nil => exact Or.inr ⟨[], by simpa using hxs.symm, hcons.symm⟩
    | cons y later =>
        obtain ⟨rfl, rfl⟩ := List.cons.inj hcons
        exact Or.inl ⟨later, hxs, rfl⟩

theorem Unrecorded.append (h : Unrecorded o events) (hmore : Startless more) :
    Unrecorded o (events ++ more) := by
  intro earlier message later hsplit hm
  rcases eq_append_cons_of_append_eq hsplit with ⟨rest, hevents, rfl⟩ | ⟨rest, -, rfl⟩
  · obtain ⟨n, hhead, hreading⟩ := h earlier message rest hevents hm
    exact ⟨n, by rw [List.head?_append, hhead]; rfl, hreading⟩
  · have hnone : Observer.startsResponse message = false := hmore (.passed message) (by simp)
    rw [hm] at hnone
    cases hnone

/-- A start that is not recorded, with its reading and what comes after. -/
theorem Unrecorded.start (h : Unrecorded o events) {n : Nat}
    (hreading : (∃ cause, Observer.answerTo message (o.clock n) = .error cause) ∨
      o.clock n = .tick .null) (hmore : Startless more) :
    Unrecorded o (events ++ .passed message :: .clock (o.clock n) :: more) := by
  intro earlier other later hsplit hm
  -- A start among the events is an old one, or the one that was added: no later event is one.
  rcases eq_append_cons_of_append_eq hsplit with ⟨rest, hevents, rfl⟩ | ⟨rest, -, htail⟩
  · obtain ⟨k, hhead, hreading⟩ := h earlier other rest hevents hm
    exact ⟨k, by rw [List.head?_append, hhead]; rfl, hreading⟩
  · cases rest with
    | nil =>
        obtain ⟨hpassed, rfl⟩ := List.cons.inj htail
        obtain rfl := Event.passed.inj hpassed
        exact ⟨n, rfl, hreading⟩
    | cons e rest =>
        have hmem : .passed other ∈ Event.clock (o.clock n) :: more := by
          rw [(List.cons.inj htail).2]
          simp
        have hnone : Observer.startsResponse other = false :=
          hmore _ ((List.mem_cons.mp hmem).resolve_left Event.noConfusion)
        rw [hm] at hnone
        cases hnone

theorem Records.append {earlier : List Event} (h : Records o events earlier message tick response)
    (more : List Event) : Records o (events ++ more) earlier message tick response where
  split := by
    obtain ⟨outcome, later, rfl, houtcome⟩ := h.split
    exact ⟨outcome, later ++ more, by simp, houtcome⟩
  starts := h.starts
  response := h.response
  reading := h.reading
  first := h.first

/-- What is told of a response stays so, as long as no other start is passed on while
none is recorded. -/
theorem Tells.append (h : Tells o events response tick) (hmore : tick = .null → Startless more) :
    Tells o (events ++ more) response tick where
  unrecorded htick := (h.unrecorded htick).append (hmore htick)
  recorded := h.recorded.imp_right fun ⟨earlier, message, hrecords⟩ =>
    ⟨earlier, message, hrecords.append more⟩

theorem Tells.falseStart (h : Tells o events response tick) (htick : tick = .null) {n : Nat}
    {cause : Failure} (hanswer : Observer.answerTo message (o.clock n) = .error cause)
    (hmore : Startless more) :
    Tells o (events ++ .passed message :: .clock (o.clock n) :: more) response tick where
  unrecorded _ := (h.unrecorded htick).start (Or.inl ⟨cause, hanswer⟩) hmore
  recorded := h.recorded.imp_right fun ⟨earlier, message, hrecords⟩ =>
    ⟨earlier, message, hrecords.append _⟩

theorem Tells.start (h : Tells o events response .null)
    (hm : Observer.startsResponse message = true) {n : Nat} (hclock : o.clock n = .tick tick)
    {started : Response} (hstart : Response.ofStart (.table message) = .ok started) {outcome : Event}
    (houtcome : outcome = .sent message ∨ outcome = .sendFailed message) :
    Tells o (events ++ [.passed message, .clock (.tick tick), outcome]) started tick where
  unrecorded htick := by
    rw [← hclock]
    exact (h.unrecorded rfl).start (Or.inr (htick ▸ hclock)) (startless_of_answer houtcome).1
  recorded := Or.inr ⟨events, message,
    ⟨outcome, [], rfl, houtcome⟩, hm, hstart, ⟨n, hclock⟩, h.unrecorded rfl⟩

end Tells

/-! ## What an exchange keeps -/

/-- Each time at which the exchange is taken to have finished, what is known of the
response is what the events before tell. -/
def FinishesTold (o : Observer) (events : List Event) : Prop :=
  ∀ before m after, events = before ++ .finished m :: after →
    Tells o before m.response m.marks.headersSentAt

theorem FinishesTold.append {o : Observer} {events more : List Event} (h : FinishesTold o events)
    (hmore : Unfinished more) : FinishesTold o (events ++ more) := by
  intro before m after hsplit
  rcases eq_append_cons_of_append_eq hsplit with ⟨later, hevents, -⟩ | ⟨earlier, -, rfl⟩
  · exact h before m later hevents
  · cases hmore (.finished m) (by simp)

theorem FinishesTold.finished {o : Observer} {events more : List Event} (h : FinishesTold o events)
    {m : Moment} (hm : Tells o events m.response m.marks.headersSentAt)
    (hmore : Unfinished more) : FinishesTold o (events ++ .finished m :: more) := by
  intro before m' after hsplit
  rcases eq_append_cons_of_append_eq hsplit with ⟨later, hevents, -⟩ | ⟨earlier, rfl, htail⟩
  · exact h before m' later hevents
  · cases earlier with
    | nil =>
        obtain rfl := Event.finished.inj (List.cons.inj htail).1
        rwa [List.append_nil]
    | cons e earlier =>
        have hmem : .finished m' ∈ more := by
          rw [(List.cons.inj htail).2]
          simp
        cases hmore _ hmem

/-- The capture holds what the events tell about the response, and so did it each time
the exchange was taken to have finished. -/
structure Tracked (o : Observer) (events : List Event) (l : Live) : Prop where
  captured : ∀ c, l.capture = some c →
    (∃ emission, c.handler = some emission) ∧ Tells o events c.response c.headersSentAt
  finishes : FinishesTold o events

/-- Whatever the host answers to a message, the exchange is tracked. -/
def Handing (o : Observer) (message : Table) : Assertion := fun events l =>
  ∀ outcome, outcome = .sent message ∨ outcome = .sendFailed message →
    Tracked o (events ++ [outcome]) l

section Tracked

variable {o : Observer} {events more : List Event} {l l' : Live} {message : Table}

theorem Tracked.append (h : Tracked o events l) (hcapture : l'.capture = l.capture)
    (hstarts : ∀ c, l.capture = some c → c.headersSentAt = .null → Startless more)
    (hfinishes : Unfinished more) : Tracked o (events ++ more) l' where
  captured c hc := by
    rw [hcapture] at hc
    obtain ⟨harmed, htells⟩ := h.captured c hc
    exact ⟨harmed, htells.append (hstarts c hc)⟩
  finishes := h.finishes.append hfinishes

theorem Tracked.start (h : Tracked o events l) {c : Capture Emission} (hc : l.capture = some c)
    (hnull : c.headersSentAt = .null) (hm : Observer.startsResponse message = true) {n : Nat}
    {tick : Value} (hclock : o.clock n = .tick tick) {response : Response}
    (hstart : Response.ofStart (.table message) = .ok response) {outcome : Event}
    (houtcome : outcome = .sent message ∨ outcome = .sendFailed message) :
    Tracked o (events ++ [.passed message, .clock (.tick tick), outcome])
      { l with capture := some { c with headersSentAt := tick, response } } where
  captured := by
    obtain ⟨harmed, htells⟩ := h.captured c hc
    rw [hnull] at htells
    rintro _ ⟨⟩
    exact ⟨harmed, htells.start hm hclock hstart houtcome⟩
  finishes := h.finishes.append (List.forall_mem_cons.mpr
    ⟨rfl, List.forall_mem_cons.mpr ⟨rfl, (startless_of_answer houtcome).2⟩⟩)

theorem Tracked.falseStart (h : Tracked o events l) {c : Capture Emission}
    (hc : l.capture = some c) (hnull : c.headersSentAt = .null) {n : Nat} {cause : Failure}
    (hanswer : Observer.answerTo message (o.clock n) = .error cause) (hmore : Startless more)
    (hfinishes : Unfinished more) :
    Tracked o (events ++ .passed message :: .clock (o.clock n) :: more) l where
  captured c' hc' := by
    obtain rfl : c = c' := Option.some.inj (hc.symm.trans hc')
    obtain ⟨harmed, htells⟩ := h.captured c hc
    exact ⟨harmed, htells.falseStart hnull hanswer hmore⟩
  finishes := h.finishes.append
    (List.forall_mem_cons.mpr ⟨rfl, List.forall_mem_cons.mpr ⟨rfl, hfinishes⟩⟩)

/-- A message that is passed on while it cannot be recorded changes nothing. -/
theorem Tracked.passed (h : Tracked o events l)
    (hm : ∀ c, l.capture = some c → c.headersSentAt = .null →
      Observer.startsResponse message = false) (hmore : Startless more)
    (hfinishes : Unfinished more) : Tracked o (events ++ .passed message :: more) l := by
  refine h.append rfl (fun c hc hnull => ?_) (List.forall_mem_cons.mpr ⟨rfl, hfinishes⟩)
  exact List.forall_mem_cons.mpr ⟨hm c hc hnull, hmore⟩

theorem Tracked.handing (h : Tracked o events l)
    (hm : ∀ c, l.capture = some c → c.headersSentAt = .null →
      Observer.startsResponse message = false) :
    Handing o message (events ++ [.passed message]) l := by
  intro outcome houtcome
  have hanswer := startless_of_answer houtcome
  rw [List.append_assoc]
  exact h.passed hm hanswer.1 hanswer.2

theorem leads_hostSend_handing (failing : List Nat) :
    Leads (Handing o message) (hostSend failing message) (fun _ => Tracked o) (Tracked o) := by
  refine leads_of_always fun events reads l h => ?_
  have hsends : ∀ {es}, Tracked o es l → Tracked o es { l with sends := l.sends + 1 } :=
    fun hes => ⟨hes.captured, hes.finishes⟩
  rw [hostSend_apply]
  split
  · exact hsends (h _ (Or.inr rfl))
  · exact hsends (h _ (Or.inl rfl))

/-- A start is recorded before it is handed over. -/
theorem leads_beforeSend_tracked (message : Table) :
    Leads (After (.passed message) (Tracked o)) (o.beforeSend message)
      (fun _ => Handing o message) (Tracked o) := by
  rintro _ reads l ⟨before, rfl, h⟩
  unfold Observer.beforeSend
  split
  case isFalse hm =>
      rw [Bool.not_eq_true] at hm
      simpa [Outcome.Ends, Activity.pure_apply] using h.handing fun _ _ _ => hm
  case isTrue hm =>
      -- A start has been recorded before, or this one is, or recording it fails.
      rcases o.marking_cases message reads l with
        ⟨hsent, hout⟩ | ⟨c, hc, hunsent, ⟨tick, response, hclock, hstart, hout⟩ |
          ⟨cause, hcause, hout⟩⟩
      · have hhanding : Handing o message (before ++ [.passed message]) l :=
          h.handing fun c hc hnull => by
            have hmarked := hsent c hc
            simp [Capture.headersSent, hnull] at hmarked
        rw [hout]
        simpa [Outcome.Ends] using hhanding
      · have hnull : c.headersSentAt = .null := by simpa [Capture.headersSent] using hunsent
        rw [hout]
        intro outcome houtcome
        simpa using h.start hc hnull hm hclock hstart houtcome
      · have hnull : c.headersSentAt = .null := by simpa [Capture.headersSent] using hunsent
        have hlogs := onlyLogged_aftermath
          (messageFor l.scope "Failed to record response start") (some cause)
        rw [hout]
        unfold Outcome.Ends
        split
        · intro outcome houtcome
          have hanswer := startless_of_answer houtcome
          simpa using h.falseStart hc hnull hcause
            (List.forall_mem_append.mpr ⟨hlogs.startless, hanswer.1⟩)
            (List.forall_mem_append.mpr ⟨hlogs.unfinished, hanswer.2⟩)
        · simpa using h.falseStart hc hnull hcause hlogs.startless hlogs.unfinished

theorem leads_finish_tracked (o : Observer) (i : Nat) :
    Leads (Tracked o) (o.finish i) (fun _ => Tracked o) (Tracked o) := by
  refine leads_of_always fun events reads l h => ?_
  rcases Observer.finish_cases l with hfinished | ⟨c, hc, hf, -⟩
  · rw [o.finish_of_finished i hfinished, List.append_nil]
    exact h
  · obtain ⟨⟨emission, hh⟩, htells⟩ := h.captured c hc
    obtain ⟨reports, hout, haccount⟩ := o.finish_of_armed i hc hf hh reads
    have haside := startless_of_account haccount
    rw [hout]
    refine ⟨?_, h.finishes.finished htells haside.2⟩
    rintro _ ⟨⟩
    exact ⟨⟨emission, hh⟩,
      htells.append fun _ => List.forall_mem_cons.mpr ⟨rfl, haside.1⟩⟩

theorem startsResponse_of_demand {message : Table} {cause : Fault}
    (h : message.demand "type" = .error cause) : Observer.startsResponse message = false := by
  have hnone : message.get? "type" = none := by
    unfold Table.demand at h
    split at h
    · cases h
    · assumption
  simp [Observer.startsResponse, Observer.isOfType, Table.get, hnone]

theorem leads_forward_tracked (o : Observer) (i : Nat) (failing : List Nat) (message : Table) :
    Leads (After (.passed message) (Tracked o)) (o.forward i failing message)
      (fun _ => Tracked o) (Tracked o) := by
  refine leads_forward_of ?_ (leads_beforeSend_tracked message) (leads_hostSend_handing failing)
    (leads_afterSend_of (leads_finish_tracked o i))
  rintro cause hdemand _ l ⟨before, rfl, h⟩
  exact h.passed (fun _ _ _ => startsResponse_of_demand hdemand) (by simp [Startless])
    (by simp [Unfinished])

theorem kept_tracked (o : Observer) (i : Nat) (failing : List Nat) :
    Kept (Tracked o) (sendOf (some o) i failing) where
  plain {e _ _} he _ hpassed h := by
    have hstartless : e.passesStart = false := by
      cases e <;> first | rfl | exact absurd rfl (hpassed _)
    have hunfinished : e.isFinished = false := by
      cases e <;> first | rfl | cases he
    exact h.append rfl (fun _ _ _ => List.forall_mem_singleton.mpr hstartless)
      (List.forall_mem_singleton.mpr hunfinished)
  changed {f scope events l} _ h := by
    refine ⟨fun c hc => ?_, h.finishes.append (by simp [Unfinished, Event.isFinished])⟩
    obtain ⟨c', hc', rfl⟩ := Option.map_eq_some_iff.mp hc
    obtain ⟨⟨emission, hh⟩, htells⟩ := h.captured c' hc'
    refine ⟨⟨⟨f emission.host⟩, by rw [Capture.mapHandler, hh]; rfl⟩, ?_⟩
    exact htells.append fun _ => by simp [Startless, Event.passesStart]
  sent message := by
    refine leads_sendOf (leads_forward_tracked o i failing message) ?_
    rintro _ reads l ⟨⟨before, rfl, h⟩, hnone⟩
    exact leads_hostSend_handing failing _ reads l (h.handing (by simp [hnone]))

end Tracked

theorem tracked_beginCapture (o : Observer) (scope : Table) (reads : Nat) :
    Tracked o (o.beginCapture reads ⟨scope, 0, none⟩).events
      (o.beginCapture reads ⟨scope, 0, none⟩).live := by
  have hfinishes : FinishesTold o [] := by simp [FinishesTold]
  have htells : Tells o [] .none .null := ⟨fun _ => by simp [Unrecorded], Or.inl ⟨rfl, rfl⟩⟩
  have hclock : ∀ r, Startless [.clock r] ∧ Unfinished [.clock r] := by
    simp [Startless, Unfinished, Event.passesStart, Event.isFinished]
  have huncaptured : ∀ {events}, Unfinished events → Tracked o events ⟨scope, 0, none⟩ :=
    fun h => ⟨fun c hc => absurd hc (Option.some_ne_none c).symm, hfinishes.append h⟩
  rw [o.beginCapture_apply]
  dsimp only
  split
  · exact huncaptured (by simp [Unfinished])
  · exact huncaptured (by simp [Unfinished])
  · split
    · exact huncaptured (hclock _).2
    · split
      · exact huncaptured (hclock _).2
      · refine ⟨?_, hfinishes.append (hclock _).2⟩
        rintro _ ⟨⟩
        exact ⟨⟨_, rfl⟩, htells.append fun _ => (hclock _).1⟩

/-- At each moment at which an exchange is taken to have finished, what is known of the
response is what the events before it tell. -/
theorem finishesTold_own (o : Observer) {courses : List Course} {i : Nat} {scope : Table}
    {steps : List AppStep} {failing : List Nat}
    (hc : courses[i]? = some (.ofScript scope steps failing)) (schedule : List Signal) :
    FinishesTold o (own i (trace (some o) courses schedule)) := by
  have hinit : Tracked o [] ⟨scope, 0, none⟩ := ⟨by simp, by simp [FinishesTold]⟩
  obtain ⟨l, h⟩ := trace_keeps hc schedule hinit (tracked_beginCapture o scope)
    (kept_tracked o i failing) (leads_finish_tracked o i)
  exact h.finishes

/-! ## The theorem -/

/-- Can the response that the message starts be read from it? -/
def IsReadable (message : Table) : Prop :=
  ∃ response, Response.ofStart (.table message) = .ok response

/-- This start is passed on after `earlier`, where no other one can be read. It is
recorded with this tick, and then the host takes it or fails to. -/
structure FirstStart (before earlier : List Event) (message : Table) (tick : Value) : Prop where
  split : ∃ outcome later,
    before = earlier ++ .passed message :: .clock (.tick tick) :: outcome :: later ∧
      (outcome = .sent message ∨ outcome = .sendFailed message)
  starts : Observer.startsResponse message = true
  first : ∀ other, .passed other ∈ earlier → Observer.startsResponse other = true →
    ¬ IsReadable other

/-- With a clock that always gives an integer, only a start that cannot be read is left
unrecorded. -/
theorem Unrecorded.not_isReadable {o : Observer} (hclock : ∀ n, ∃ k, o.clock n = .tick (.int k))
    {events : List Event} (h : Unrecorded o events) {message : Table}
    (hpassed : .passed message ∈ events) (hm : Observer.startsResponse message = true) :
    ¬ IsReadable message := by
  rintro ⟨response, hresponse⟩
  obtain ⟨earlier, later, hsplit⟩ := List.append_of_mem hpassed
  obtain ⟨n, -, hreading⟩ := h earlier message later hsplit hm
  obtain ⟨k, hk⟩ := hclock n
  rcases hreading with ⟨cause, hcause⟩ | hnull
  · rw [hk, Observer.answerTo, hresponse] at hcause
    cases hcause
  · rw [hk] at hnull
    cases hnull

/-- **The first start is reported.** With a clock that gives integers, a line that is
written reports one start of a response as a whole, its status, its headers and its
tick: the first one that was passed on before the emission and could be read, whether
the host took it or failed to. If there is none, the line shows neither a status nor a
response time. -/
theorem reports_first_start (o : Observer) (hclock : ∀ n, ∃ k, o.clock n = .tick (.int k))
    {courses : List Course} {i : Nat} {scope : Table} {steps : List AppStep} {failing : List Nat}
    (hc : courses[i]? = some (.ofScript scope steps failing)) (schedule : List Signal)
    {text : String} (hwrote : .wrote text ∈ own i (trace (some o) courses schedule)) :
    ∃ before m e r, WritesAt o scope (own i (trace (some o) courses schedule)) before m e r text ∧
      ((∃ earlier message tick, FirstStart before earlier message tick ∧
          Response.ofStart (.table message) = .ok e.response ∧ e.marks.headersSentAt = tick ∧
          ∀ ref ∈ o.template.tokens, ref.kind = .status → (Segment.token ref).part e ≠ "" →
            (Table.get message "status").display = .ok ((Segment.token ref).part e)) ∨
        (∀ message, .passed message ∈ before → Observer.startsResponse message = true →
            ¬ IsReadable message) ∧
          e.response = .none ∧ e.marks.headersSentAt = .null ∧
          ∀ ref ∈ o.template.tokens, ref.kind = .status ∨ ref.kind = .responseTime →
            (Segment.token ref).part e = "") := by
  obtain ⟨before, m, e, r, hwrites⟩ := exists_writesAt o hc schedule hwrote
  obtain ⟨after, hsplit⟩ := hwrites.split
  have htells := finishesTold_own o hc schedule before m after hsplit
  rw [← hwrites.response, ← hwrites.marks] at htells
  refine ⟨before, m, e, r, hwrites, ?_⟩
  rcases htells.recorded with ⟨hresponse, hnull⟩ | ⟨earlier, message, hrecords⟩
  · refine Or.inr ⟨fun message hpassed hm => ?_, hresponse, hnull, fun ref _ hkind =>
      Segment.part_of_unstarted hresponse hnull hkind⟩
    exact (htells.unrecorded hnull).not_isReadable hclock hpassed hm
  · refine Or.inl ⟨earlier, message, e.marks.headersSentAt, ⟨hrecords.split, hrecords.starts,
      fun other hpassed hm => hrecords.first.not_isReadable hclock hpassed hm⟩,
      hrecords.response, rfl, fun ref _ hkind hpart => ?_⟩
    rw [← (Response.ofStart_eq_ok hrecords.response).1]
    exact Segment.display_status_of_part_ne hkind hpart

/-- Does the host take a message? -/
def Event.isSent : Event → Bool
  | sent _ => true
  | _ => false

/-- An application that starts its response again when the host fails to take the first
start. -/
def retryingSteps : List AppStep :=
  [⟨.send (sampleStart 200), true⟩, ⟨.send (sampleStart 500), false⟩, ⟨.send sampleBody, false⟩]

theorem reports_first_start_of_retrying :
    ∃ before m e r, WritesAt .brief sampleScope
        (own 0 (trace (some .brief) [.ofScript sampleScope retryingSteps [0]] [])) before m e r
        "200\n" ∧
      ((∃ earlier message tick, FirstStart before earlier message tick ∧
          Response.ofStart (.table message) = .ok e.response ∧ e.marks.headersSentAt = tick ∧
          ∀ ref ∈ Observer.brief.template.tokens, ref.kind = .status →
            (Segment.token ref).part e ≠ "" →
            (Table.get message "status").display = .ok ((Segment.token ref).part e)) ∨
        (∀ message, .passed message ∈ before → Observer.startsResponse message = true →
            ¬ IsReadable message) ∧
          e.response = .none ∧ e.marks.headersSentAt = .null ∧
          ∀ ref ∈ Observer.brief.template.tokens, ref.kind = .status ∨ ref.kind = .responseTime →
            (Segment.token ref).part e = "") :=
  reports_first_start .brief (fun n => ⟨n, rfl⟩) rfl [] (by decide +kernel)

/-- A start that the host fails to take is reported, although the host takes another
one with another status afterwards. -/
theorem reports_refused_start :
    .wrote "200\n" ∈ own 0 (trace (some .brief) [.ofScript sampleScope retryingSteps [0]] []) ∧
      ∀ message,
        .sent message ∈ own 0 (trace (some .brief) [.ofScript sampleScope retryingSteps [0]] []) →
        Observer.startsResponse message = true → Table.get message "status" = .int 500 := by
  have hsent : (own 0 (trace (some .brief) [.ofScript sampleScope retryingSteps [0]] [])).filter
      Event.isSent = [.sent (sampleStart 500), .sent sampleBody] := by decide +kernel
  refine ⟨by decide +kernel, fun message hmem hm => ?_⟩
  have hmessage : message = sampleStart 500 ∨ message = sampleBody := by
    simpa [hsent] using List.mem_filter.mpr ⟨hmem, show (Event.sent message).isSent = true from rfl⟩
  rcases hmessage with rfl | rfl
  · rfl
  · cases hm

end Gateway

end AccessLog
