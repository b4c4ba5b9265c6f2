import AccessLog.Proofs.Stages

/-!
# One line for each exchange

An observed exchange emits its line exactly once, at the right moment
(`emits_once`): right after the host has taken the last part of the body for the
first time or, when that never happens, at the very end. Nothing that is sent,
raised or cancelled afterwards adds a call of the callback or a line.

An exchange is observed from the first read of the clock on, provided that its
client's host can be read: one with a client that is no sequence fails between that
read and the arming of the emission, and emits nothing
(`not_emits_of_unreadable_client`).
-/

namespace AccessLog.Gateway

namespace Event

/-- Is a line about to be emitted? -/
def isFinished : Event → Bool
  | finished _ => true
  | _ => false

/-- Is the callback called? -/
def isNotified : Event → Bool
  | notified _ => true
  | _ => false

/-- Is a line written to the sink? -/
def isWrote : Event → Bool
  | wrote _ => true
  | _ => false

theorem isEmission_of_isFinished {e : Event} (h : e.isFinished = true) : e.isEmission = true := by
  cases e <;> simp_all [isFinished, isEmission]

theorem isReport_of_isNotified {e : Event} (h : e.isNotified = true) : e.isReport = true := by
  cases e <;> simp_all [isNotified, isReport]

theorem isReport_of_isWrote {e : Event} (h : e.isWrote = true) : e.isReport = true := by
  cases e <;> simp_all [isWrote, isReport]

end Event

/-- The exchange with these events emits its line once, at a moment between the
events before it and those after it. -/
structure EmitsAt (o : Observer) (i : Nat) (events before : List Event) (m : Moment)
    (reading : Reading) (after : List Event) : Prop where
  split : events = before ++ .finished m :: (m.lookUp reading ++ after)
  once : events.filter Event.isFinished = [.finished m]
  moment : JustEnded before ∨ Unended events ∧ ∃ reports failure,
    after = reports ++ [.done failure] ∧ ∀ e ∈ reports, e.isObservers = true
  notified : events.countP Event.isNotified ≤ 1
  wrote : events.countP Event.isWrote ≤ 1
  rendered : ∀ r, m.rendering o.template reading = .ok r →
    (∀ cause, o.answerOf i r.tokens = some cause → cause.isOrdinary = true) →
    events.filter Event.isReport = o.notificationOf r ++ [.wrote (Observer.lineOf r)]
  unrendered : ∀ cause, m.rendering o.template reading = .error cause →
    events.filter Event.isReport = []

/-! ## What an emission leaves -/

/-- Nothing of an emission is found where nothing is emitted. -/
theorem Quiet.filter_eq_nil {events : List Event} (h : Quiet events) {p : Event → Bool}
    (hp : ∀ e, p e = true → e.isEmission = true) : events.filter p = [] := by
  rw [List.filter_eq_nil_iff]
  intro e he hpe
  have hemission := hp e hpe
  rw [h e he] at hemission
  cases hemission

theorem Quiet.filter_isFinished {events : List Event} (h : Quiet events) :
    events.filter Event.isFinished = [] :=
  h.filter_eq_nil fun _ => Event.isEmission_of_isFinished

theorem Quiet.filter_isReport {events : List Event} (h : Quiet events) :
    events.filter Event.isReport = [] :=
  h.filter_eq_nil fun _ => Event.isEmission_of_isReport

theorem quiet_lookUp (m : Moment) (reading : Reading) : Quiet (m.lookUp reading) := by
  unfold Moment.lookUp
  split <;> simp [Quiet, Event.isEmission]

theorem Reports.isObservers {events reports : List Event} (h : Reports events reports) :
    ∀ e ∈ events, e.isObservers = true ∧ e.isFinished = false ∧ e.takesEnd = false := by
  intro e he
  rcases h.records e he with hreport | ⟨record, rfl⟩
  · cases e <;> first | exact ⟨rfl, rfl, rfl⟩ | cases hreport
  · exact ⟨rfl, rfl, rfl⟩

/-- The callback is called at most once for a rendering, and so is the sink. -/
theorem Observer.countP_reportsOf (o : Observer) (i : Nat) (rendering : Except Failure Rendering) :
    (o.reportsOf i rendering).countP Event.isNotified ≤ 1 ∧
      (o.reportsOf i rendering).countP Event.isWrote ≤ 1 := by
  cases rendering with
  | error cause => simp [reportsOf]
  | ok r =>
      have hnotification : o.notificationOf r = [.notified r.tokens] ∨ o.notificationOf r = [] := by
        unfold notificationOf
        split
        · exact Or.inl rfl
        · exact Or.inr rfl
      unfold reportsOf
      dsimp only
      rcases hnotification with h | h <;> rw [h] <;> split <;>
        simp [List.countP_cons, Event.isNotified, Event.isWrote]

/-- An event that only some reports are is counted among the reports. -/
theorem countP_eq_countP_filter_isReport {p : Event → Bool}
    (hp : ∀ e, p e = true → e.isReport = true) (events : List Event) :
    events.countP p = (events.filter Event.isReport).countP p := by
  rw [List.countP_filter]
  refine List.countP_congr fun e _ => ?_
  simp only [Bool.and_eq_true]
  exact ⟨fun h => ⟨h, hp e h⟩, And.left⟩

namespace Entry.Emitted

variable {x : Entry} {events before reports after : List Event} {m : Moment} {reading : Reading}

theorem filter_isFinished (h : x.Emitted events before m reading reports after) :
    events.filter Event.isFinished = [.finished m] := by
  have hreports : reports.filter Event.isFinished = [] := by
    rw [List.filter_eq_nil_iff]
    intro e he
    rw [(h.account.isObservers e he).2.1]
    exact Bool.false_ne_true
  rw [h.split, List.filter_append, h.quietBefore.filter_isFinished, List.filter_cons_of_pos rfl,
    List.filter_append, (quiet_lookUp m reading).filter_isFinished, List.filter_append, hreports,
    h.quietAfter.filter_isFinished]
  rfl

/-- The callback and the sink get to see what the rendering asks for, and nothing
else. -/
theorem filter_isReport (h : x.Emitted events before m reading reports after) :
    events.filter Event.isReport =
      x.observer.reportsOf x.index (m.rendering x.observer.template reading) := by
  rw [h.split, List.filter_append, h.quietBefore.filter_isReport,
    List.filter_cons_of_neg Bool.false_ne_true, List.filter_append,
    (quiet_lookUp m reading).filter_isReport, List.filter_append, h.account.filter,
    h.quietAfter.filter_isReport, List.append_nil]
  rfl

theorem unended (h : x.Emitted events before m reading reports after)
    (hbefore : Unended before) (hafter : Unended after) : Unended events := by
  have hlookUp : Unended (m.lookUp reading) := by
    unfold Moment.lookUp
    split <;> simp [Unended, Event.takesEnd]
  have hreports : Unended reports := fun e he => (h.account.isObservers e he).2.2
  rw [h.split]
  exact hbefore.append (List.forall_mem_cons.mpr ⟨rfl, hlookUp.append (hreports.append hafter)⟩)

end Entry.Emitted

/-- A line that has been emitted for good has been emitted once. -/
theorem Entry.Closed.emitsAt {x : Entry} {events : List Event} (h : x.Closed events) :
    ∃ before m reading after, EmitsAt x.observer x.index events before m reading after := by
  obtain ⟨before, m, reading, reports, after, h, hmoment⟩ := h
  have hcount := x.observer.countP_reportsOf x.index (m.rendering x.observer.template reading)
  refine ⟨before, m, reading, reports ++ after, h.split, h.filter_isFinished, ?_, ?_, ?_, ?_, ?_⟩
  · refine hmoment.imp_right ?_
    rintro ⟨hunended, failure, rfl⟩
    exact ⟨h.unended hunended (by simp [Unended, Event.takesEnd]), reports, failure, rfl,
      fun e he => (h.account.isObservers e he).1⟩
  · rw [countP_eq_countP_filter_isReport fun _ => Event.isReport_of_isNotified, h.filter_isReport]
    exact hcount.1
  · rw [countP_eq_countP_filter_isReport fun _ => Event.isReport_of_isWrote, h.filter_isReport]
    exact hcount.2
  · intro r hr hanswer
    rw [h.filter_isReport, hr, Observer.reportsOf, escaping_of_ordinary hanswer]
  · intro cause hcause
    rw [h.filter_isReport, hcause, Observer.reportsOf]

/-! ## The theorem -/

/-- **One line for each exchange.** An exchange that is begun, not passed over and
captured, with a client's host that can be read, emits its line exactly once:
right after the host has taken the last part of the body, for the first time, or
when its application returns, fails or is cancelled without that. The callback is
called at most once, and at most one line is written; with a rendering and a
callback that raises nothing but ordinary failures it is exactly one line, after
exactly one call of the callback if there is one; without a rendering it is
neither. -/
theorem emits_once (o : Observer) {courses : List Course} {i : Nat} {scope : Table}
    {steps : List AppStep} {failing : List Nat}
    (hc : courses[i]? = some (.ofScript scope steps failing)) (schedule : List Signal)
    (hpassed : o.isPassedOver scope = .ok false) {host : Value}
    (hhost : clientHost scope = .ok host) {tick : Value}
    (hstart : (own i (trace (some o) courses schedule)).head? = some (.clock (.tick tick))) :
    ∃ before m reading after,
      EmitsAt o i (own i (trace (some o) courses schedule)) before m reading after := by
  rcases stage_of_trace o hc schedule with ⟨hentry, -⟩ | ⟨host', tick', -, hclosed⟩
  · exact absurd ⟨hpassed, hhost, hstart⟩ (hentry host tick)
  · exact hclosed.emitsAt

/-- An observer of few words. -/
def Observer.brief : Observer where
  template := Template.parse ":status"
  blacklist := []
  clock n := .tick (.int n)
  callback := some fun _ _ => none
  sink _ _ := none

/-- An application that has to send its body twice, then sends it once more, and
fails. -/
def stubbornSteps : List AppStep :=
  [⟨.send (sampleStart 200), false⟩, ⟨.send sampleBody, true⟩, ⟨.pause, false⟩,
    ⟨.send sampleBody, false⟩, ⟨.send sampleBody, false⟩, ⟨.fail (.raised .runtime "late"), false⟩]

theorem emits_once_of_stubborn :
    ∃ before m reading after, EmitsAt .brief 0
      (own 0 (trace (some .brief) [.ofScript sampleScope stubbornSteps [1]] [⟨0, .resume⟩]))
      before m reading after :=
  have hstart : (own 0 (trace (some .brief) [.ofScript sampleScope stubbornSteps [1]]
      [⟨0, .resume⟩])).head? = some (.clock (.tick (.int 0))) := by decide +kernel
  emits_once .brief rfl [⟨0, .resume⟩] rfl rfl hstart

/-- The scope of a request whose client is no sequence. -/
def unreadableScope : Table :=
  [(.text "type", .text "http"), (.text "path", .text "/"), (.text "client", .int 5)]

/-- The capture of an exchange is started, and yet nothing is emitted, when the
client's host cannot be read. -/
theorem not_emits_of_unreadable_client :
    Observer.brief.isPassedOver unreadableScope = .ok false ∧
      (own 0 (trace (some .brief) [.ofScript unreadableScope [] []] [])).head? =
        some (.clock (.tick (.int 0))) ∧
      ¬ ∃ before m reading after, EmitsAt .brief 0
        (own 0 (trace (some .brief) [.ofScript unreadableScope [] []] [])) before m reading
        after := by
  have hevents : own 0 (trace (some .brief) [.ofScript unreadableScope [] []] []) =
      [.clock (.tick (.int 0)), .done (some (.fault .unsupported))] := by decide +kernel
  rw [hevents]
  refine ⟨rfl, rfl, ?_⟩
  rintro ⟨before, m, reading, after, h⟩
  cases h.once

end AccessLog.Gateway
