import AccessLog.Proofs.History

/-!
# The stages of an observed exchange

Every exchange waits, goes on, and ends, observed or not (`Stage`). A turn takes it
from one stage to a next one (`Stage.take`), so it has come to its end when a trace
is complete (`stage_of_trace`); there, an observed exchange has had its line
emitted exactly once.

The proofs are triples: `Leads P y Q E` says that the activity `y`, started where
`P` holds, gets to where `Q` of its value holds, or to where `E` holds if it
fails. What an application does keeps every assertion that is `Kept`, which asks
about three things only: events that count for nothing, changes of the scope, and
messages that are sent.
-/

namespace AccessLog.Gateway

/-! ## Triples -/

/-- After these events, `Q` of its value holds in an outcome, or `E` if it is a
failure. -/
def Outcome.Ends {α : Type} (events : List Event) (Q : α → Assertion) (E : Assertion)
    (p : Outcome α) : Prop :=
  match p.result with
  | .ok a => Q a (events ++ p.events) p.live
  | .error _ => E (events ++ p.events) p.live

/-- Started where `P` holds, the activity gets to where `Q` of its value holds, or
to where `E` holds if it fails. -/
def Leads {α : Type} (P : Assertion) (y : Activity α) (Q : α → Assertion) (E : Assertion) : Prop :=
  ∀ events reads l, P events l → (y reads l).Ends events Q E

/-- Where `P` held before the last event, which is this one. -/
def After (e : Event) (P : Assertion) : Assertion := fun events l =>
  ∃ before, events = before ++ [e] ∧ P before l

section Triples

variable {α β : Type} {P R E F : Assertion} {Q : α → Assertion}

theorem Leads.bind {y : Activity α} {f : α → Activity β} {S : β → Assertion}
    (h : Leads P y Q E) (hf : ∀ a, Leads (Q a) (f a) S E) : Leads P (y >>= f) S E := by
  intro events reads l hP
  have hy := h events reads l hP
  unfold Outcome.Ends at hy
  cases hr : (y reads l).result with
  | error cause =>
      rw [hr] at hy
      rw [Activity.bind_apply_of_error hr]
      exact hy
  | ok a =>
      rw [hr] at hy
      rw [Activity.bind_apply_of_ok hr]
      have hrest := hf a _ (y reads l).reads _ hy
      simpa only [Outcome.Ends, List.append_assoc] using hrest

/-- However the activity ends, the same holds there. -/
theorem leads_of_always {y : Activity α}
    (h : ∀ events reads l, P events l → R (events ++ (y reads l).events) (y reads l).live) :
    Leads P y (fun _ => R) R := by
  intro events reads l hP
  have hy := h events reads l hP
  unfold Outcome.Ends
  split <;> exact hy

theorem Leads.always {y : Activity α} (h : Leads P y (fun _ => R) R) (events : List Event)
    (reads : Nat) (l : Live) (hP : P events l) :
    R (events ++ (y reads l).events) (y reads l).live := by
  have hy := h events reads l hP
  unfold Outcome.Ends at hy
  split at hy <;> exact hy

theorem Leads.mono {y : Activity α} (h : Leads P y Q E)
    (hP : ∀ events l, R events l → P events l) : Leads R y Q E :=
  fun events reads l hR => h events reads l (hP events l hR)

theorem leads_pure (a : α) : Leads (Q a) (pure a) Q E := by
  intro events reads l hQ
  simpa [Outcome.Ends, Activity.pure_apply] using hQ

theorem leads_fail (cause : Failure) : Leads E (Activity.fail cause : Activity α) Q E := by
  intro events reads l hE
  simpa [Outcome.Ends] using hE

theorem leads_leave {e : Event} (h : ∀ events l, P events l → R (events ++ [e]) l) :
    Leads P (Activity.leave e) (fun _ => R) E :=
  fun events _ l hP => h events l hP

theorem Leads.attempt {y : Activity α} (h : Leads P y Q E) :
    Leads P y.attempt
      (fun result => match result with
        | .ok a => Q a
        | .error _ => E) F := by
  intro events reads l hP
  have hy := h events reads l hP
  unfold Outcome.Ends at hy
  simp only [Activity.attempt, Outcome.Ends]
  cases hr : (y reads l).result <;> rw [hr] at hy <;> exact hy

theorem Leads.recover {y : Activity Unit} {handle : Failure → Activity Unit}
    (h : Leads P y (fun _ => R) R) (hh : ∀ cause, Leads R (handle cause) (fun _ => R) R) :
    Leads P (y.recover handle) (fun _ => R) R := by
  refine h.attempt.bind fun result => ?_
  match result with
  | .ok () => exact leads_pure (Q := fun _ => R) ()
  | .error cause =>
      dsimp only
      split
      · exact hh cause
      · exact leads_fail cause

end Triples

/-! ## Sending and finishing -/

section Forward

variable {o : Observer} {i : Nat} {failing : List Nat} {message : Table} {P S : Assertion}

/-- Only a start of a response is marked before it is handed over. -/
theorem leads_beforeSend_of
    (hpassed : ∀ events l, After (.passed message) P events l → P events l)
    (hmarking : Observer.startsResponse message = true →
      Leads (After (.passed message) P) (o.marking message) (fun _ => P) P) :
    Leads (After (.passed message) P) (o.beforeSend message) (fun _ => P) P := by
  unfold Observer.beforeSend
  split
  · exact hmarking ‹_›
  · exact (leads_pure (Q := fun _ => P) ()).mono hpassed

theorem leads_afterSend_of (hfinish : Leads P (o.finish i) (fun _ => P) P) :
    Leads P (o.afterSend i message) (fun _ => P) P := by
  unfold Observer.afterSend
  split
  · exact hfinish
  · exact leads_pure (Q := fun _ => P) ()

/-- A message that names no type is not handed over. Any other one is, after what comes
before and before what comes after, each of which finds what the one before has left. -/
theorem leads_forward_of {H : Assertion}
    (hunnamed : ∀ cause, message.demand "type" = .error cause →
      ∀ events l, After (.passed message) P events l → P events l)
    (hbefore : Leads (After (.passed message) P) (o.beforeSend message) (fun _ => H) P)
    (hhost : Leads H (hostSend failing message) (fun _ => S) P)
    (hafter : Leads S (o.afterSend i message) (fun _ => P) P) :
    Leads (After (.passed message) P) (o.forward i failing message) (fun _ => P) P := by
  rw [Observer.forward_eq]
  cases hdemand : message.demand "type" with
  | error cause =>
      refine Leads.mono (fun events reads l h => ?_) (hunnamed cause hdemand)
      simpa [Outcome.Ends] using h
  | ok type =>
      rw [Activity.ofExcept_ok_bind]
      exact hbefore.bind fun _ => hhost.bind fun _ => hafter

/-- An exchange sends through its observer when it has a capture, and directly otherwise. -/
theorem leads_sendOf
    (hforward : Leads (After (.passed message) P) (o.forward i failing message) (fun _ => P) P)
    (hbare : Leads (fun events l => After (.passed message) P events l ∧ l.capture = none)
      (hostSend failing message) (fun _ => P) P) :
    Leads (After (.passed message) P) (sendOf (some o) i failing message) (fun _ => P) P := by
  intro events reads l h
  unfold sendOf
  rw [Activity.live_bind_apply]
  cases hc : l.capture with
  | some c => exact hforward events reads l h
  | none => exact hbare events reads l ⟨h, hc⟩

end Forward

namespace Entry

variable {x : Entry} {events : List Event} {l : Live}

/-- The start of a response makes it known, together with its tick. -/
theorem Armed.start {c : Capture Emission} {emission : Emission}
    (h : x.Armed events l c emission) {message : Table}
    (hm : Observer.startsResponse message = true) (hunsent : c.headersSent = false)
    {reads : Nat} {tick : Value} (hclock : x.observer.clock reads = .tick tick)
    {response : Response} (hstart : Response.ofStart (.table message) = .ok response) :
    x.Armed (events ++ [.passed message, .clock (.tick tick)])
      { l with capture := some { c with headersSentAt := tick, response } }
      { c with headersSentAt := tick, response } emission where
  capture := rfl
  unfinished := h.unfinished
  handler := h.handler
  knows := {
    scope := by
      rw [scopeAfter_append]
      exact h.knows.scope
    host := h.knows.host
    startedAt := h.knows.startedAt
    recorded := fun hnull => by
      have hbefore := h.knows.recorded hnull
      have hsent : c.headersSentAt = .null := by simpa [Capture.headersSent] using hunsent
      have hnone : startOf? events = none := by
        cases hs : startOf? events with
        | none => rfl
        | some start =>
            rw [Recorded, hs] at hbefore
            exact absurd (hbefore.2.1.symm.trans hsent) hbefore.2.2
      have hanswer : (Observer.answerTo message (.tick tick)).toOption = some (tick, response) := by
        simp only [Observer.answerTo, hstart]
        rfl
      rw [Recorded, startOf?_append_start events hm (by simp [Mute]), hnone, hanswer]
      exact ⟨rfl, rfl, fun htick => hnull reads (htick ▸ hclock)⟩ }
  quiet := h.quiet.append (by simp [Quiet, Event.isEmission])
  unended := h.unended.append (by simp [Unended, Event.takesEnd])

/-- A start for which the clock or the headers fail leaves everything as it is. -/
theorem Armed.falseStart {c : Capture Emission} {emission : Emission}
    (h : x.Armed events l c emission) {message : Table}
    (hm : Observer.startsResponse message = true) {reading : Reading} {cause : Failure}
    (hanswer : Observer.answerTo message reading = .error cause) {logs : List Event}
    (hlogs : Plain logs) :
    x.Armed (events ++ (.passed message :: .clock reading :: logs)) l c emission where
  capture := h.capture
  unfinished := h.unfinished
  handler := h.handler
  knows := {
    scope := by
      rw [h.knows.scope, scopeAfter_append]
      exact (scopeAfter_of_mute hlogs.mute).symm
    host := h.knows.host
    startedAt := h.knows.startedAt
    recorded := fun hnull => by
      rw [Recorded, startOf?_append_start events hm hlogs.mute, hanswer, Except.toOption,
        Option.or_none]
      exact h.knows.recorded hnull }
  quiet := h.quiet.append
    (List.forall_mem_cons.mpr ⟨rfl, List.forall_mem_cons.mpr ⟨rfl, hlogs.quiet⟩⟩)
  unended := h.unended.append
    (List.forall_mem_cons.mpr ⟨rfl, List.forall_mem_cons.mpr ⟨rfl, hlogs.unended⟩⟩)

/-- The emission at the end of these events. -/
theorem Knows.emitted {m : Moment} (h : x.Knows events m) (hquiet : Quiet events)
    {reading : Reading} {reports : List Event}
    (haccount : x.observer.Account x.index m reading reports) :
    x.Emitted (events ++ .finished m :: (m.lookUp reading ++ reports)) events m reading
      reports [] where
  split := by rw [List.append_nil]
  knows := h
  account := haccount
  quietBefore := hquiet
  quietAfter := by simp [Quiet]

/-- A line that has been emitted is not emitted again. -/
theorem Sealed.finish (h : x.Sealed events l) (reads : Nat) :
    x.observer.finish x.index reads l = ⟨[], reads, l, .ok ()⟩ := by
  obtain ⟨-, c, hc, hfinished⟩ := h
  refine x.observer.finish_of_finished x.index (fun c' hc' => ?_) reads
  obtain rfl : c = c' := Option.some.inj (hc.symm.trans hc')
  exact hfinished

variable (x)

/-- Whatever the start of a response comes to, what would be emitted stays known. -/
theorem leads_marking {message : Table} (hm : Observer.startsResponse message = true) :
    Leads (After (.passed message) x.Going) (x.observer.marking message)
      (fun _ => x.Going) x.Going := by
  refine leads_of_always ?_
  rintro _ reads l ⟨before, rfl, h⟩
  rcases x.observer.marking_cases message reads l with
    ⟨-, hout⟩ | ⟨c, hc, hunsent, ⟨tick, response, hclock, hstart, hout⟩ | ⟨cause, hcause, hout⟩⟩
  · rw [hout, List.append_nil]
    exact h.append (.singleton rfl) rfl rfl
  · rw [hout, List.append_assoc]
    rcases h with ⟨c', emission, h⟩ | h
    · obtain rfl : c = c' := Option.some.inj (hc.symm.trans h.capture)
      exact Or.inl ⟨_, emission, h.start hm hunsent hclock hstart⟩
    · obtain ⟨c', hc', hfinished⟩ := h.2
      obtain rfl : c = c' := Option.some.inj (hc.symm.trans hc')
      exact Or.inr (h.append (by simp [Quiet, Event.isEmission]) ⟨_, rfl, hfinished⟩)
  · have hlogs := (onlyLogged_aftermath
      (messageFor l.scope "Failed to record response start") (some cause)).plain
    rw [hout, List.append_assoc]
    rcases h with ⟨c', emission, h⟩ | h
    · exact Or.inl ⟨c', emission, h.falseStart hm hcause hlogs⟩
    · exact Or.inr (h.append
        (List.forall_mem_cons.mpr ⟨rfl, List.forall_mem_cons.mpr ⟨rfl, hlogs.quiet⟩⟩) h.2)

/-- The host takes a message, or fails to and counts it all the same. -/
theorem leads_hostSend {P : Assertion} (failing : List Nat) (message : Table)
    (hfailed : ∀ events l, P events l →
      P (events ++ [.sendFailed message]) { l with sends := l.sends + 1 })
    (hsends : ∀ events l, P events l → P events { l with sends := l.sends + 1 }) :
    Leads P (hostSend failing message) (fun _ => After (.sent message) P) P := by
  intro events reads l h
  rw [hostSend_apply]
  by_cases hfail : failing.contains l.sends = true
  · simp only [hfail, if_true]
    exact hfailed events l h
  · simp only [hfail, if_false, Bool.false_eq_true]
    exact ⟨events, rfl, hsends events l h⟩

/-- After the last part of the body, a pending line is emitted. -/
theorem leads_finish_after_end {message : Table} (hend : Observer.endsBody message = true) :
    Leads (After (.sent message) x.Going) (x.observer.finish x.index)
      (fun _ => x.Going) x.Going := by
  refine leads_of_always ?_
  rintro _ reads l ⟨before, rfl, ⟨c, emission, h⟩ | h⟩
  · obtain ⟨events, hout, haccount⟩ :=
      x.observer.finish_of_armed x.index h.capture h.unfinished h.handler reads
    have hsent : Mute [.sent message] ∧ Quiet [.sent message] := by
      simp [Mute, Event.isMute, Quiet, Event.isEmission]
    have hknows := h.knows.append hsent.1
    have hquiet := h.quiet.append hsent.2
    rw [hout]
    exact Or.inr ⟨⟨_, _, _, _, _, hknows.emitted hquiet haccount,
      before, message, rfl, hend, h.unended⟩, _, rfl, rfl⟩
  · rw [h.finish, List.append_nil]
    exact Or.inr (h.append (by simp [Quiet, Event.isEmission]) h.2)

/-- When the application ends, a pending line is emitted. -/
theorem leads_finish : Leads x.Going (x.observer.finish x.index) (fun _ => x.Over) x.Over := by
  refine leads_of_always ?_
  rintro before reads l (⟨c, emission, h⟩ | h)
  · obtain ⟨events, hout, haccount⟩ :=
      x.observer.finish_of_armed x.index h.capture h.unfinished h.handler reads
    rw [hout]
    exact Or.inl ⟨_, _, _, _, h.knows.emitted h.quiet haccount, h.unended⟩
  · rw [h.finish, List.append_nil]
    exact Or.inr h

theorem leads_afterSend (message : Table) :
    Leads (After (.sent message) x.Going) (x.observer.afterSend x.index message)
      (fun _ => x.Going) x.Going := by
  unfold Observer.afterSend
  split
  · rename_i hend
    exact x.leads_finish_after_end hend
  · rename_i hend
    refine (leads_pure (Q := fun _ => x.Going) ()).mono ?_
    rintro _ l ⟨before, rfl, h⟩
    exact h.append (.singleton (by simp [Event.isPlain, Event.isMute, Event.isEmission,
      Event.takesEnd, hend])) rfl rfl

theorem leads_forward (failing : List Nat) (message : Table) :
    Leads (After (.passed message) x.Going) (x.observer.forward x.index failing message)
      (fun _ => x.Going) x.Going := by
  have hpassed : ∀ events l, After (.passed message) x.Going events l → x.Going events l := by
    rintro _ l ⟨before, rfl, h⟩
    exact h.append (.singleton rfl) rfl rfl
  refine leads_forward_of (fun _ _ => hpassed)
    (leads_beforeSend_of hpassed fun hm => x.leads_marking hm)
    (leads_hostSend failing message ?_ ?_) (x.leads_afterSend message)
  · exact fun events l h => h.append (.singleton rfl) rfl rfl
  · intro events l h
    rw [← List.append_nil events]
    exact h.append (by simp [Plain]) rfl rfl

end Entry

/-! ## What an application keeps -/

/-- What holds after anything that an application does, as long as it holds before:
after events that count for nothing and are not the observer's, after changes of the
scope, and after messages that are sent this way. A message that is passed on is one
that is sent. -/
structure Kept (P : Assertion) (send : Send) : Prop where
  plain : ∀ {e events l}, e.isPlain = true → e.isObservers = false →
    (∀ message, e ≠ .passed message) → P events l → P (events ++ [e]) l
  changed : ∀ {f scope events l}, KeptHost.Faithful f → P events l →
    P (events ++ [.changed scope]) { l.changeHost f with scope }
  sent : ∀ message, Leads (After (.passed message) P) (send message) (fun _ => P) P

namespace Kept

variable {P : Assertion} {send : Send}

theorem act (h : Kept P send) (act : Act) : Leads P (act.perform send) (fun _ => P) P := by
  cases act with
  | send message =>
      refine Leads.bind (leads_leave fun events l hP => ?_) fun _ => h.sent message
      exact ⟨events, rfl, hP⟩
  | receive => exact leads_leave fun _ _ => h.plain rfl rfl nofun
  | pause => exact leads_pure (Q := fun _ => P) ()
  | assign path v =>
      refine leads_of_always fun events reads l hP => ?_
      simp only [Act.perform, Activity.live_bind_apply]
      cases assignIn l.scope path v with
      | error cause => simpa using hP
      | ok scope => exact h.changed (KeptHost.faithful_afterPut _ _ _) hP
  | remove key =>
      refine leads_of_always fun events reads l hP => ?_
      simp only [Act.perform]
      split
      · exact h.changed (KeptHost.faithful_afterRemove key) hP
      · simpa using hP
  | fail cause => exact leads_fail cause

theorem step (h : Kept P send) (step : AppStep) :
    Leads P (step.perform send) (fun _ => P) P := by
  unfold AppStep.perform
  split
  · exact (h.act step.act).recover fun _ => leads_leave fun _ _ => h.plain rfl rfl nofun
  · exact h.act step.act

theorem advance (h : Kept P send) :
    ∀ steps : List AppStep, Leads P (advance send steps) (fun _ => P) P
  | [] => leads_pure (Q := fun _ => P) _
  | step :: rest => by
      rw [Gateway.advance]
      split
      · exact leads_pure (Q := fun _ => P) _
      · exact (h.step step).bind fun _ => h.advance rest

end Kept

/-- What holds after a turn: this at a pause, and that at the end. -/
def atTurn (P R : Assertion) : Progress → Assertion
  | .paused _ => P
  | .returned => R

theorem Kept.proceed {P R : Assertion} {observer : Option Observer} {i : Nat}
    {failing : List Nat} (h : Kept P (sendOf observer i failing))
    (hfinish : Leads P (finishOf observer i) (fun _ => R) R) (steps : List AppStep) :
    Leads P (proceed observer i failing steps) (atTurn P R) R := by
  refine (h.advance steps).attempt.bind fun result => ?_
  match result with
  | .ok (.paused rest) => exact leads_pure (Q := atTurn P R) (.paused rest)
  | .ok .returned => exact hfinish.bind fun _ => leads_pure (Q := atTurn P R) .returned
  | .error cause => exact hfinish.bind fun _ => leads_fail cause

/-- Before its steps, an application is entered. -/
theorem Kept.enter {P R : Assertion} {observer : Option Observer} {i : Nat}
    {failing : List Nat} (h : Kept P (sendOf observer i failing))
    (hfinish : Leads P (finishOf observer i) (fun _ => R) R) (steps : List AppStep) :
    Leads P
      (do Activity.leave (.entered ((← Activity.live).scope.get "type"))
          Gateway.proceed observer i failing steps)
      (atTurn P R) R := by
  intro events reads l hP
  rw [Activity.live_bind_apply]
  have hentered : Leads P (Activity.leave (.entered (l.scope.get "type"))) (fun _ => P) R :=
    leads_leave fun _ _ => h.plain rfl rfl nofun
  exact hentered.bind (fun _ => h.proceed hfinish steps) events reads l hP

theorem atTurn_self (P : Assertion) : atTurn P P = fun _ => P := by
  funext progress
  cases progress <;> rfl

/-! ## Observed and unobserved -/

namespace Entry

/-- Another scope is known at once, and the client's host stays what it was. -/
theorem Armed.changed {x : Entry} {events : List Event} {l : Live} {c : Capture Emission}
    {emission : Emission} (h : x.Armed events l c emission) {f : KeptHost → KeptHost}
    (hf : KeptHost.Faithful f) (scope : Table) :
    x.Armed (events ++ [.changed scope]) { l.changeHost f with scope }
      (c.mapHandler fun e => ⟨f e.host⟩) ⟨f emission.host⟩ where
  capture := by rw [Live.changeHost, h.capture]; rfl
  unfinished := h.unfinished
  handler := by rw [Capture.mapHandler, h.handler]; rfl
  knows := {
    scope := by rw [scopeAfter_append]; rfl
    host := hf _ _ h.knows.host
    startedAt := h.knows.startedAt
    recorded := fun hnull => by
      have hstart : startOf? (events ++ [.changed scope]) = startOf? events := by
        rw [startOf?_append (by rintro r ⟨⟩)]
        exact Option.or_none
      rw [Recorded, hstart]
      exact h.knows.recorded hnull }
  quiet := h.quiet.append (by simp [Quiet, Event.isEmission])
  unended := h.unended.append (by simp [Unended, Event.takesEnd])

theorem Going.captured {x : Entry} {events : List Event} {l : Live} (h : x.Going events l) :
    ∃ c, l.capture = some c := by
  rcases h with ⟨c, emission, h⟩ | ⟨-, c, hc, -⟩
  · exact ⟨c, h.capture⟩
  · exact ⟨c, hc⟩

/-- Whatever an application does, the line stays pending or has been emitted for
good. -/
theorem kept_going (x : Entry) (failing : List Nat) :
    Kept x.Going (sendOf (some x.observer) x.index failing) where
  plain he _ _ h := h.append (.singleton he) rfl rfl
  changed {f scope events l} hf h := by
    rcases h with ⟨c, emission, h⟩ | h
    · exact Or.inl ⟨_, _, h.changed hf scope⟩
    · obtain ⟨c, hc, hfinished⟩ := h.2
      exact Or.inr (h.append (by simp [Quiet, Event.isEmission])
        ⟨c.mapHandler fun e => ⟨f e.host⟩, by rw [Live.changeHost, hc]; rfl, hfinished⟩)
  sent message := by
    refine leads_sendOf (x.leads_forward failing message) ?_
    rintro _ reads l ⟨⟨before, rfl, h⟩, hnone⟩
    obtain ⟨c, hc⟩ := h.captured
    cases hc.symm.trans hnone

end Entry

/-- The exchange is not observed, and no line is emitted. -/
def Unwatched : Assertion := fun events l => Quiet events ∧ l.capture = none

theorem Unwatched.append {events more : List Event} {l l' : Live} (h : Unwatched events l)
    (hmore : Quiet more) (hcapture : l'.capture = l.capture) : Unwatched (events ++ more) l' :=
  ⟨h.1.append hmore, hcapture.trans h.2⟩

theorem kept_unwatched (o : Observer) (i : Nat) (failing : List Nat) :
    Kept Unwatched (sendOf (some o) i failing) where
  plain he _ _ h := h.append (Plain.singleton he).quiet rfl
  changed _ h := by
    refine ⟨h.1.append (by simp [Quiet, Event.isEmission]), ?_⟩
    simp [Live.changeHost, h.2]
  sent message := by
    refine leads_of_always ?_
    rintro _ reads l ⟨before, rfl, h⟩
    unfold sendOf
    simp only [Activity.live_bind_apply, h.2, hostSend_apply]
    rw [List.append_assoc]
    split <;> exact ⟨h.1.append (by simp [Quiet, Event.isEmission]), rfl⟩

theorem leads_finish_unwatched (o : Observer) (i : Nat) :
    Leads Unwatched (o.finish i) (fun _ => Unwatched) Unwatched := by
  refine leads_of_always fun events reads l h => ?_
  rw [o.finish_of_finished i (by simp [h.2]), List.append_nil]
  exact h

/-! ## Turns -/

/-- Where an exchange of this scope stands, and what has happened in it: it waits,
or it goes on or has ended without being observed, or it goes on or has ended
under observation. -/
inductive Stage (o : Observer) (i : Nat) (scope : Table) : List Event → Course → Prop
  | waiting (steps : List AppStep) (failing : List Nat) :
      Stage o i scope [] (.ofScript scope steps failing)
  | unobserved {events : List Event} {c : Course} (hne : events ≠ [])
      (hentry : ∀ host tick, ¬ Entry.IsEntryOf ⟨o, i, scope, host, tick⟩ events)
      (hphase : ∀ steps, c.phase ≠ .waiting steps) (h : Unwatched events c.live) :
      Stage o i scope events c
  | going {events : List Event} {c : Course} (host tick : Value)
      (hentry : Entry.IsEntryOf ⟨o, i, scope, host, tick⟩ events) (rest : List AppStep)
      (hphase : c.phase = .paused rest)
      (h : Entry.Going ⟨o, i, scope, host, tick⟩ events c.live) : Stage o i scope events c
  | ended {events : List Event} {c : Course} (host tick : Value)
      (hentry : Entry.IsEntryOf ⟨o, i, scope, host, tick⟩ events) (hphase : c.phase = .ended)
      (h : Entry.Closed ⟨o, i, scope, host, tick⟩ events) : Stage o i scope events c

namespace Stage

variable {o : Observer} {i : Nat} {scope : Table} {events : List Event} {c : Course}

/-- A turn of an observed exchange. -/
theorem of_going (events : List Event) {host tick : Value} {p : Outcome Progress}
    (hentry : Entry.IsEntryOf ⟨o, i, scope, host, tick⟩ (events ++ p.events))
    (h : p.Ends events (atTurn (Entry.Going ⟨o, i, scope, host, tick⟩)
      (Entry.Over ⟨o, i, scope, host, tick⟩)) (Entry.Over ⟨o, i, scope, host, tick⟩)) :
    Stage o i scope (events ++ (p.events ++ [Progress.event p.result])) (c.afterTurn p) := by
  rw [← List.append_assoc]
  unfold Outcome.Ends at h
  match hr : p.result with
  | .ok (.paused rest) =>
      rw [hr] at h
      refine .going host tick hentry.append rest (by rw [Course.afterTurn, hr]; rfl) ?_
      exact Entry.Going.append h (.singleton rfl) rfl rfl
  | .ok .returned =>
      rw [hr] at h
      exact .ended host tick hentry.append (by rw [Course.afterTurn, hr]; rfl) (h.closed none)
  | .error cause =>
      rw [hr] at h
      exact .ended host tick hentry.append (by rw [Course.afterTurn, hr]; rfl)
        (h.closed (some cause))

/-- A turn of an exchange that is not observed. -/
theorem of_unwatched (events : List Event) {p : Outcome Progress}
    (hentry : ∀ host tick, ¬ Entry.IsEntryOf ⟨o, i, scope, host, tick⟩
      (events ++ (p.events ++ [Progress.event p.result])))
    (h : Unwatched (events ++ p.events) p.live) :
    Stage o i scope (events ++ (p.events ++ [Progress.event p.result])) (c.afterTurn p) := by
  refine .unobserved (by simp) hentry ?_ ?_
  · intro steps
    show Progress.phase p.result ≠ _
    match p.result with
    | .ok (.paused _) => exact Phase.noConfusion
    | .ok .returned => exact Phase.noConfusion
    | .error _ => exact Phase.noConfusion
  · rw [← List.append_assoc]
    refine h.append ?_ rfl
    match p.result with
    | .ok (.paused _) => simp [Progress.event, Quiet, Event.isEmission]
    | .ok .returned => simp [Progress.event, Quiet, Event.isEmission]
    | .error _ => simp [Progress.event, Quiet, Event.isEmission]

end Stage

/-- An exchange that begins is either observed from its entry on, or it is not
observed at all. -/
theorem going_or_unwatched_of_beginCapture (o : Observer) (i : Nat) (scope : Table) (reads : Nat) :
    (∃ host tick,
        Entry.IsEntryOf ⟨o, i, scope, host, tick⟩ (o.beginCapture reads ⟨scope, 0, none⟩).events ∧
        Entry.Going ⟨o, i, scope, host, tick⟩ (o.beginCapture reads ⟨scope, 0, none⟩).events
          (o.beginCapture reads ⟨scope, 0, none⟩).live ∧
        (o.beginCapture reads ⟨scope, 0, none⟩).result = .ok ()) ∨
      (∀ more host tick, ¬ Entry.IsEntryOf ⟨o, i, scope, host, tick⟩
        ((o.beginCapture reads ⟨scope, 0, none⟩).events ++ more)) ∧
      Unwatched (o.beginCapture reads ⟨scope, 0, none⟩).events
        (o.beginCapture reads ⟨scope, 0, none⟩).live := by
  rw [o.beginCapture_apply]
  cases hpassed : o.isPassedOver scope with
  | error cause =>
      refine Or.inr ⟨fun more host tick h => ?_, by simp [Quiet], rfl⟩
      cases hpassed.symm.trans h.notPassedOver
  | ok passed =>
      cases passed with
      | true =>
          refine Or.inr ⟨fun more host tick h => ?_, by simp [Quiet], rfl⟩
          cases hpassed.symm.trans h.notPassedOver
      | false =>
          cases o.clock reads with
          | fails cause =>
              refine Or.inr ⟨fun more host tick h => ?_, by simp [Quiet, Event.isEmission], rfl⟩
              cases h.clock
          | tick tick =>
              dsimp only
              cases hhost : clientHost scope with
              | error cause =>
                  rw [show KeptHost.ofScope scope = .error cause by
                    rw [KeptHost.ofScope, hhost]; rfl]
                  refine Or.inr ⟨fun more host tick h => ?_, by simp [Quiet, Event.isEmission], rfl⟩
                  cases hhost.symm.trans h.clientHost
              | ok host =>
                  obtain ⟨kept, hkept, hvalue⟩ :
                      ∃ kept, KeptHost.ofScope scope = .ok kept ∧ kept.value = host := by
                    rw [KeptHost.ofScope, hhost]
                    exact ⟨_, rfl, rfl⟩
                  rw [hkept]
                  refine Or.inl ⟨host, tick, ⟨hpassed, hhost, rfl⟩,
                    Or.inl ⟨(Capture.start tick).arm ⟨kept⟩, ⟨kept⟩, ?_⟩, rfl⟩
                  exact ⟨rfl, rfl, rfl, ⟨rfl, Or.inl hvalue, rfl, fun _ => ⟨rfl, rfl⟩⟩,
                    by simp [Quiet, Event.isEmission], by simp [Unended, Event.takesEnd]⟩

namespace Stage

variable {o : Observer} {i : Nat} {scope : Table} {events : List Event} {c : Course}

/-- The first turn of an exchange. -/
theorem begin (o : Observer) (i : Nat) (scope : Table) (steps : List AppStep)
    (failing : List Nat) (reads : Nat) {p : Outcome Progress}
    (hp : Gateway.begin (some o) i failing steps reads ⟨scope, 0, none⟩ = p) :
    Stage o i scope (p.events ++ [Progress.event p.result])
      ((Course.ofScript scope steps failing).afterTurn p) := by
  rw [begin_eq] at hp
  rcases going_or_unwatched_of_beginCapture o i scope reads with
    ⟨host, tick, hentry, hgoing, hr⟩ | ⟨hentry, hunwatched⟩
  · have hrest := (Entry.kept_going ⟨o, i, scope, host, tick⟩ failing).enter
      (Entry.leads_finish _) steps _ (o.beginCapture reads ⟨scope, 0, none⟩).reads _ hgoing
    rw [Activity.bind_apply_of_ok (x := beforeEntry (some o)) hr] at hp
    subst hp
    exact of_going [] hentry.append hrest
  · cases hr : (o.beginCapture reads ⟨scope, 0, none⟩).result with
    | error cause =>
        rw [Activity.bind_apply_of_error (x := beforeEntry (some o)) hr] at hp
        subst hp
        exact of_unwatched [] (hentry _) hunwatched
    | ok _ =>
        have hrest := (kept_unwatched o i failing).enter (leads_finish_unwatched o i) steps
        rw [atTurn_self] at hrest
        rw [Activity.bind_apply_of_ok (x := beforeEntry (some o)) hr] at hp
        subst hp
        refine of_unwatched [] ?_ (hrest.always _ _ _ hunwatched)
        intro host tick
        rw [List.nil_append, List.append_assoc]
        exact hentry _ host tick

/-- A turn takes an exchange from one stage to a next one. -/
theorem take (h : Stage o i scope events c) (reads : Nat) (command : Command) :
    Stage o i scope (events ++ (c.take (some o) i reads command).events)
      (c.take (some o) i reads command).course := by
  cases h with
  | waiting steps failing =>
      have hturn := Course.turn?_of_waiting (some o) i
        (show (Course.ofScript scope steps failing).phase = .waiting steps from rfl)
      cases command with
      | resume =>
          rw [Course.take_of_some hturn.1]
          exact begin o i scope steps failing reads rfl
      | cancel =>
          rw [Course.take_of_some hturn.2]
          exact of_unwatched [] (fun host tick h => by cases h.clock) ⟨by simp [Quiet], rfl⟩
  | unobserved hne hentry hphase h =>
      cases hc : c.phase with
      | waiting steps => exact absurd hc (hphase steps)
      | ended =>
          rw [Course.take_of_none (Course.turn?_of_ended hc command), List.append_nil]
          exact .unobserved hne hentry hphase h
      | paused rest =>
          have hturn := Course.turn?_of_paused (some o) i hc
          have hfinish := leads_finish_unwatched o i
          cases command with
          | resume =>
              have hrest := (kept_unwatched o i c.failing).proceed hfinish rest
              rw [atTurn_self] at hrest
              rw [Course.take_of_some hturn.1]
              exact of_unwatched events (fun host tick h => hentry host tick (h.of_append hne))
                (hrest.always _ _ _ h)
          | cancel =>
              have hrest : Leads Unwatched (interrupt (some o) i) (fun _ => Unwatched) Unwatched :=
                hfinish.bind fun _ => leads_fail .cancelled
              rw [Course.take_of_some hturn.2]
              exact of_unwatched events (fun host tick h => hentry host tick (h.of_append hne))
                (hrest.always _ _ _ h)
  | going host tick hentry rest hphase h =>
      have hturn := Course.turn?_of_paused (some o) i hphase
      have hfinish := Entry.leads_finish ⟨o, i, scope, host, tick⟩
      cases command with
      | resume =>
          rw [Course.take_of_some hturn.1]
          exact of_going events hentry.append (((Entry.kept_going ⟨o, i, scope, host, tick⟩
            c.failing).proceed hfinish rest) _ _ _ h)
      | cancel =>
          have hrest : Leads (Entry.Going ⟨o, i, scope, host, tick⟩) (interrupt (some o) i)
              (atTurn (Entry.Going ⟨o, i, scope, host, tick⟩)
                (Entry.Over ⟨o, i, scope, host, tick⟩)) (Entry.Over ⟨o, i, scope, host, tick⟩) :=
            hfinish.bind fun _ => leads_fail .cancelled
          rw [Course.take_of_some hturn.2]
          exact of_going events hentry.append (hrest _ _ _ h)
  | ended host tick hentry hphase h =>
      rw [Course.take_of_none (Course.turn?_of_ended hphase command), List.append_nil]
      exact .ended host tick hentry hphase h

end Stage

/-- When a trace is complete, an exchange of it has either not been observed at
all, or its line has been emitted for good. -/
theorem stage_of_trace (o : Observer) {courses : List Course} {i : Nat} {scope : Table}
    {steps : List AppStep} {failing : List Nat}
    (hc : courses[i]? = some (.ofScript scope steps failing)) (schedule : List Signal) :
    (∀ host tick, ¬ Entry.IsEntryOf ⟨o, i, scope, host, tick⟩
        (own i (trace (some o) courses schedule))) ∧
      Quiet (own i (trace (some o) courses schedule)) ∨
    ∃ host tick, Entry.IsEntryOf ⟨o, i, scope, host, tick⟩
        (own i (trace (some o) courses schedule)) ∧
      Entry.Closed ⟨o, i, scope, host, tick⟩ (own i (trace (some o) courses schedule)) := by
  obtain ⟨c, hc', hstage⟩ := State.run_keeps (some o) i (Stage o i scope)
    (fun _ _ reads command h => h.take reads command) (schedule ++ completion courses)
    ⟨0, courses⟩ hc (.waiting steps failing)
  have hended := phase_after_completion (some o) schedule hc hc'
  rw [List.nil_append] at hstage
  rw [trace]
  generalize own i (State.run (some o) ⟨0, courses⟩ (schedule ++ completion courses)) = events
    at hstage ⊢
  cases hstage with
  | waiting steps failing => cases hended
  | unobserved _ hentry _ h => exact Or.inl ⟨hentry, h.1⟩
  | going host tick _ rest hphase _ => cases hphase.symm.trans hended
  | ended host tick hentry _ h => exact Or.inr ⟨host, tick, hentry, h⟩

end AccessLog.Gateway
