import AccessLog.Proofs.Emission

/-!
# What a line is rendered from

A line that is written comes from four moments of its exchange, and from nothing
else (`render_of_wrote`): the tick and the client's host of the entry; the response
and the tick of one start, the first one that could be recorded; the scope as the
application has left it at the emission; and the tick of the emission. The callback
gets the tokens of the same rendering.
-/

namespace AccessLog.Gateway

/-- The events of an exchange that had this scope on entry tell that its line is
rendered from `e`, after these events. -/
structure TellsAt (scope : Table) (events before : List Event) (e : Exchange) : Prop where
  split : ∃ m after, events = before ++ .finished m :: .clock (.tick e.renderedAt) :: after
  quiet : Quiet before
  started : before.head? = some (.clock (.tick e.marks.startedAt))
  request : ∃ host, clientHost scope = .ok host ∧
    Request.ofScope (scopeAfter scope before) host = .ok e.request
  response : match startOf? before with
    | some (tick, response) => e.response = response ∧ e.marks.headersSentAt = tick
    | none => e.response = .none ∧ e.marks.headersSentAt = .null

theorem Moment.exists_of_rendering_eq_ok {m : Moment} {t : Template} {reading : Reading}
    {r : Rendering} (h : m.rendering t reading = .ok r) :
    ∃ request tick, Request.ofScope m.scope m.host = .ok request ∧ reading = .tick tick ∧
      t.render ⟨request, m.response, m.marks, tick⟩ = .ok r := by
  unfold rendering at h
  cases hrequest : Request.ofScope m.scope m.host with
  | error cause => rw [hrequest] at h; cases h
  | ok request =>
      cases reading with
      | fails cause => rw [hrequest] at h; cases h
      | tick tick =>
          rw [hrequest] at h
          dsimp only at h
          cases hrender : t.render ⟨request, m.response, m.marks, tick⟩ with
          | error cause => rw [hrender] at h; cases h
          | ok r' =>
              rw [hrender] at h
              cases h
              exact ⟨request, tick, rfl, rfl, hrender⟩

/-- What is written is the line of a rendering, and what the callback gets are the
tokens of the same one. -/
theorem Observer.exists_of_wrote_mem_reportsOf {o : Observer} {i : Nat}
    {rendering : Except Failure Rendering} {text : String}
    (h : .wrote text ∈ o.reportsOf i rendering) :
    ∃ r, rendering = .ok r ∧ text = lineOf r ∧
      ∀ tokens, .notified tokens ∈ o.reportsOf i rendering → tokens = r.tokens := by
  cases rendering with
  | error cause => cases h
  | ok r =>
      have hnotification : ∀ e ∈ o.notificationOf r, e = .notified r.tokens := by
        unfold notificationOf
        split <;> simp
      have hreports : ∀ e ∈ o.reportsOf i (.ok r),
          e = .notified r.tokens ∨ e = .wrote (lineOf r) := by
        intro e he
        unfold reportsOf at he
        dsimp only at he
        split at he
        · exact (List.mem_append.mp he).imp (hnotification e) List.mem_singleton.mp
        · exact Or.inl (hnotification e he)
      refine ⟨r, rfl, ?_, fun tokens htokens => ?_⟩
      · rcases hreports _ h with h | h <;> cases h
        rfl
      · rcases hreports _ htokens with h | h <;> cases h
        rfl

/-- The facts of a line are those that the events before its emission tell. -/
theorem Entry.Emitted.tellsAt {x : Entry} {events before reports after : List Event} {m : Moment}
    {tick : Value} (h : x.Emitted events before m (.tick tick) reports after)
    (hclock : ∀ n, x.observer.clock n ≠ .tick .null) (hentry : x.IsEntryOf events)
    {request : Request} (hrequest : Request.ofScope m.scope m.host = .ok request) :
    TellsAt x.scope events before
      (Exchange.withRemoteAddress ⟨request, m.response, m.marks, tick⟩ x.host) where
  split := by
    refine ⟨m, reports ++ after, ?_⟩
    rw [h.split, Moment.lookUp, hrequest]
    rfl
  quiet := h.quietBefore
  started := by
    have hhead := hentry.clock
    rw [h.split] at hhead
    cases before with
    | nil => cases hhead
    | cons e rest => exact hhead.trans (by rw [← h.knows.startedAt]; rfl)
  request := by
    rw [h.knows.scope] at hrequest
    exact ⟨x.host, hentry.clientHost, (Request.ofScope_remoteAddress _ hrequest).2⟩
  response := by
    have hrecorded := h.knows.recorded hclock
    unfold Recorded at hrecorded
    cases hs : startOf? before with
    | none => rwa [hs] at hrecorded
    | some start =>
        rw [hs] at hrecorded
        exact ⟨hrecorded.1, hrecorded.2.1⟩

/-- **What a line is rendered from.** With a clock whose readings are integers, a
line that is written is the rendering of what the events before its emission tell,
and the callback gets the tokens of this rendering. -/
theorem render_of_wrote (o : Observer)
    (hclock : ∀ n v, o.clock n = .tick v → ∃ k, v = .int k)
    {courses : List Course} {i : Nat} {scope : Table} {steps : List AppStep} {failing : List Nat}
    (hc : courses[i]? = some (.ofScript scope steps failing)) (schedule : List Signal)
    {text : String} (hwrote : .wrote text ∈ own i (trace (some o) courses schedule)) :
    ∃ before e r, TellsAt scope (own i (trace (some o) courses schedule)) before e ∧
      o.template.render e = .ok r ∧ text = r.line ++ "\n" ∧
      ∀ tokens, .notified tokens ∈ own i (trace (some o) courses schedule) →
        tokens = r.tokens := by
  rcases stage_of_trace o hc schedule with ⟨-, hquiet⟩ | ⟨host, start, hentry, hclosed⟩
  · cases hquiet _ hwrote
  · obtain ⟨before, m, reading, reports, after, h, -⟩ := hclosed
    have hreports := h.filter_isReport
    have hmem : .wrote text ∈ o.reportsOf i (m.rendering o.template reading) := by
      rw [← hreports]
      exact List.mem_filter.mpr ⟨hwrote, rfl⟩
    obtain ⟨r, hr, htext, htokens⟩ := Observer.exists_of_wrote_mem_reportsOf hmem
    obtain ⟨request, tick, hrequest, rfl, hrender⟩ := Moment.exists_of_rendering_eq_ok hr
    have hnull : ∀ n, o.clock n ≠ .tick .null := fun n hn => by
      obtain ⟨k, hk⟩ := hclock n .null hn
      cases hk
    refine ⟨before, _, r, h.tellsAt hnull hentry hrequest, ?_, htext, fun tokens hmem => ?_⟩
    · refine Template.render_withRemoteAddress ?_ hrender
      rw [(Request.ofScope_remoteAddress host hrequest).1]
      exact h.knows.host
    · refine htokens tokens ?_
      rw [← hreports]
      exact List.mem_filter.mpr ⟨hmem, rfl⟩

/-- An observer with a clock that stops once. -/
def Observer.halting : Observer where
  template := Template.parse ":status in :response-time"
  blacklist := []
  clock := Clock.ofReadings [.tick (.int 0), .tick (.int 3000000), .fails (.raised .os "stopped"),
    .tick (.int 7000000), .tick (.int 9000000)]
  callback := some fun _ _ => none
  sink _ _ := none

/-- An application that starts its response four times: the headers of the first
start cannot be read, and the clock stops at the second one. -/
def hesitantSteps : List AppStep :=
  [⟨.send (sampleStart 500 ++ [(.text "headers", .int 1)]), false⟩,
    ⟨.send (sampleStart 501), false⟩, ⟨.send (sampleStart 200), false⟩,
    ⟨.send (sampleStart 404), false⟩, ⟨.send sampleBody, false⟩]

theorem render_of_wrote_hesitant :
    ∃ before e r, TellsAt sampleScope
        (own 0 (trace (some .halting) [.ofScript sampleScope hesitantSteps []] [])) before e ∧
      Observer.halting.template.render e = .ok r ∧ "200 in 7.000\n" = r.line ++ "\n" ∧
      ∀ tokens, .notified tokens ∈
          own 0 (trace (some .halting) [.ofScript sampleScope hesitantSteps []] []) →
        tokens = r.tokens := by
  refine render_of_wrote .halting ?_ rfl [] (by decide +kernel)
  have hreading : ∀ n, (∃ k, Observer.halting.clock n = .tick (.int k)) ∨
      ∃ cause, Observer.halting.clock n = .fails cause := by
    rintro (_ | _ | _ | _ | _ | n)
    iterate 2 exact Or.inl ⟨_, rfl⟩
    · exact Or.inr ⟨_, rfl⟩
    iterate 3 exact Or.inl ⟨_, rfl⟩
  intro n v hv
  rcases hreading n with ⟨k, hn⟩ | ⟨cause, hn⟩ <;> rw [hn] at hv <;> cases hv
  exact ⟨k, rfl⟩

end AccessLog.Gateway
