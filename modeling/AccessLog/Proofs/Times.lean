import AccessLog.Proofs.ClockOrder
import AccessLog.Proofs.Milliseconds
import AccessLog.Proofs.Starts

/-!
# The times of a line

With a clock that never goes back, an exchange starts before its response does, and its
response starts before the line is rendered. So in a map of tokens that shows both times, the
response time is not above the total time (`times_in_order`), although both of them have been
rounded twice.
-/

namespace AccessLog

/-! ## The tokens of a map -/

/-- The text is read as a token of this kind. -/
def IsTokenOf (kind : TokenKind) (key : String) : Prop :=
  ∃ ref, TokenRef.parse? key = some ref ∧ ref.kind = kind

/-- In the map of a rendering, a token has its part of the line. -/
theorem Template.exists_of_get?_tokens {format : String} {e : Exchange} {r : Rendering}
    (h : (parse format).render e = .ok r) {kind : TokenKind} {key part : String}
    (hkind : IsTokenOf kind key) (hpart : r.tokens.get? key = some part) :
    ∃ ref, ref.kind = kind ∧ (Segment.token ref).part e = part := by
  obtain ⟨ref, hparse, hfound⟩ := exists_part_of_get?_tokens h hpart
  obtain ⟨other, hother, rfl⟩ := hkind
  obtain rfl := Option.some.inj (hparse.symm.trans hother)
  exact ⟨ref, rfl, hfound⟩

namespace Gateway

/-! ## The order of the readings -/

/-- The exchange starts, its response starts if it has, and the line is rendered, in this
order. -/
def InOrder (marks : Marks) (renderedAt : Value) : Prop :=
  ∃ start stop : Int, marks.startedAt = .int start ∧ renderedAt = .int stop ∧ start ≤ stop ∧
    (marks.headersSentAt = .null ∨
      ∃ sent : Int, marks.headersSentAt = .int sent ∧ start ≤ sent ∧ sent ≤ stop)

theorem head?_eq_of_append_cons {α : Type} {xs ys : List α} {x y : α}
    (h : (xs ++ y :: ys).head? = some x) (hne : y ≠ x) : xs.head? = some x := by
  cases xs with
  | nil => exact absurd (Option.some.inj h) hne
  | cons _ _ => exact h

theorem exists_readings_of_head? {events : List Event} {v : Value}
    (h : events.head? = some (.clock (.tick v))) :
    ∃ more, readings events = .tick v :: more := by
  cases events with
  | nil => cases h
  | cons e rest =>
      obtain rfl := Option.some.inj h
      exact ⟨readings rest, rfl⟩

theorem inOrder_of_ascending {o : Observer} {before after : List Event} {m : Moment} {tick : Value}
    (hhead : before.head? = some (.clock (.tick m.marks.startedAt)))
    (htells : Tells o before m.response m.marks.headersSentAt)
    (h : Ascending (readings (before ++ .finished m :: .clock (.tick tick) :: after))) :
    InOrder m.marks tick := by
  rw [readings_append] at h
  -- The entry is the first thing that is read, and the emission comes after all of `before`.
  obtain ⟨more, hbefore⟩ := exists_readings_of_head? hhead
  have hwhole : Ascending ([] ++ .tick m.marks.startedAt ::
      (more ++ .tick tick :: readings after)) := by
    rw [hbefore] at h
    exact h
  obtain ⟨start, stop, hstart, hstop, hle⟩ := hwhole.le rfl
  refine ⟨start, stop, hstart, hstop, hle, ?_⟩
  rcases htells.recorded with ⟨-, hnull⟩ | ⟨earlier, message, hrecords⟩
  · exact Or.inl hnull
  · right
    -- The start of the response is recorded with a reading of its own, between these two.
    obtain ⟨outcome, later, rfl, -⟩ := hrecords.split
    obtain ⟨more, hearlier⟩ :=
      exists_readings_of_head? (head?_eq_of_append_cons hhead Event.noConfusion)
    have hsplit : Ascending ((.tick m.marks.startedAt :: more) ++ .tick m.marks.headersSentAt ::
        (readings (outcome :: later) ++ .tick tick :: readings after)) := by
      rw [readings_append, hearlier, List.append_assoc] at h
      exact h
    obtain ⟨start', sent, hstart', hsent, hfirst⟩ :=
      hsplit.le (show _ = [] ++ .tick m.marks.startedAt :: (more ++ _) from rfl)
    obtain ⟨sent', stop', hsent', hstop', hsecond⟩ := hsplit.le rfl
    obtain rfl := Value.int.inj (hstart.symm.trans hstart')
    obtain rfl := Value.int.inj (hstop.symm.trans hstop')
    obtain rfl := Value.int.inj (hsent.symm.trans hsent')
    exact ⟨sent, hsent, hfirst, hsecond⟩

section Emissions

variable {o : Observer} {courses : List Course} {i : Nat} {scope : Table} {steps : List AppStep}
  {failing : List Nat}

theorem inOrder_own (hclock : o.clock.IsSteady)
    (hc : courses[i]? = some (.ofScript scope steps failing)) (schedule : List Signal)
    {before after : List Event} {m : Moment} {tick : Value}
    (hsplit : own i (trace (some o) courses schedule) =
      before ++ .finished m :: .clock (.tick tick) :: after) : InOrder m.marks tick := by
  have hmem : .finished m ∈ own i (trace (some o) courses schedule) := by
    rw [hsplit]
    simp
  rcases stage_of_trace o hc schedule with ⟨-, hquiet⟩ | ⟨host, start, hentry, hclosed⟩
  · cases hquiet _ hmem
  · obtain ⟨before', m', reading, reports, after', h, -⟩ := hclosed
    -- The exchange finishes once, so this is the moment that its entry is known for.
    obtain rfl : m = m' := by
      have honly := h.filter_isFinished ▸ List.mem_filter.mpr ⟨hmem, rfl⟩
      exact Event.finished.inj (List.mem_singleton.mp honly)
    have hhead := hentry.clock
    have hascending := ascending_readings_own o i hclock courses schedule
    have htells := finishesTold_own o hc schedule before m _ hsplit
    rw [hsplit] at hhead hascending
    rw [← h.knows.startedAt] at hhead
    exact inOrder_of_ascending (head?_eq_of_append_cons hhead Event.noConfusion) htells hascending

theorem Observer.exists_of_notified_mem_reportsOf {rendering : Except Failure Rendering}
    {tokens : Named String} (h : .notified tokens ∈ o.reportsOf i rendering) :
    ∃ r, rendering = .ok r ∧ tokens = r.tokens := by
  cases rendering with
  | error cause => cases h
  | ok r =>
      have hnotification : .notified tokens ∈ o.notificationOf r := by
        unfold reportsOf at h
        dsimp only at h
        split at h
        · exact (List.mem_append.mp h).resolve_right (by simp)
        · exact h
      unfold notificationOf at hnotification
      split at hnotification
      · exact ⟨r, rfl, Event.notified.inj (List.mem_singleton.mp hnotification)⟩
      · cases hnotification

/-- The tokens that the callback gets are those of a rendering right after the exchange has
finished. -/
theorem exists_of_notified (hc : courses[i]? = some (.ofScript scope steps failing))
    (schedule : List Signal) {tokens : Named String}
    (hnotified : .notified tokens ∈ own i (trace (some o) courses schedule)) :
    ∃ before m request tick after r,
      own i (trace (some o) courses schedule) =
        before ++ .finished m :: .clock (.tick tick) :: after ∧
      o.template.render ⟨request, m.response, m.marks, tick⟩ = .ok r ∧ tokens = r.tokens := by
  rcases stage_of_trace o hc schedule with ⟨-, hquiet⟩ | ⟨host, start, -, hclosed⟩
  · cases hquiet _ hnotified
  · obtain ⟨before, m, reading, reports, after, h, -⟩ := hclosed
    have hreport : .notified tokens ∈ o.reportsOf i (m.rendering o.template reading) := by
      rw [← h.filter_isReport]
      exact List.mem_filter.mpr ⟨hnotified, rfl⟩
    obtain ⟨r, hr, rfl⟩ := Observer.exists_of_notified_mem_reportsOf hreport
    obtain ⟨request, tick, hrequest, rfl, hrender⟩ := Moment.exists_of_rendering_eq_ok hr
    refine ⟨before, m, request, tick, reports ++ after, r, ?_, hrender, rfl⟩
    rw [h.split, Moment.lookUp, hrequest]
    rfl

/-- **Times in order.** With a clock that never goes back, shared by any number of exchanges:
each time a line is emitted, its exchange has started no later than its response, if that
has started, and both of them no later than the line is rendered. So in each map of tokens
that shows both a response time and a total time, both are numbers with three places, and the
first one is at most the second one. -/
theorem times_in_order (hclock : o.clock.IsSteady) {format : String}
    (hformat : o.template = Template.parse format)
    (hc : courses[i]? = some (.ofScript scope steps failing)) (schedule : List Signal) :
    (∀ before m tick after, own i (trace (some o) courses schedule) =
        before ++ .finished m :: .clock (.tick tick) :: after → InOrder m.marks tick) ∧
      ∀ tokens, .notified tokens ∈ own i (trace (some o) courses schedule) →
        ∀ key key' text text', IsTokenOf .responseTime key → IsTokenOf .totalTime key' →
          tokens.get? key = some text → tokens.get? key' = some text' →
          text ≠ "" → text' ≠ "" →
          ∃ n n', Number.IsThousandths text n ∧ Number.IsThousandths text' n' ∧ n ≤ n' := by
  refine ⟨fun before m tick after => inOrder_own hclock hc schedule, ?_⟩
  intro tokens hnotified key key' text text' hkey hkey' htext htext' hne hne'
  obtain ⟨before, m, request, tick, after, r, hsplit, hrender, rfl⟩ :=
    exists_of_notified hc schedule hnotified
  obtain ⟨start, stop, hstart, rfl, -, hsent⟩ := inOrder_own hclock hc schedule hsplit
  rw [hformat] at hrender
  obtain ⟨ref, hkind, rfl⟩ := Template.exists_of_get?_tokens hrender hkey htext
  obtain ⟨ref', hkind', rfl⟩ := Template.exists_of_get?_tokens hrender hkey' htext'
  have hvalue := Segment.value_of_part_ne hne
  have hvalue' := Segment.value_of_part_ne hne'
  rw [hkind, TokenKind.value] at hvalue
  rw [hkind', TokenKind.value] at hvalue'
  rcases hsent with hnull | ⟨sent, hsent, -, hle⟩
  · -- A response that has not started shows no time.
    rw [Resolve.responseTime, if_pos hnull] at hvalue
    cases hvalue
  · exact Resolve.responseTime_le_timeTo hstart hsent hle hvalue hvalue'

end Emissions

/-- An observer of times, whose clock goes on by a little more than a millisecond. -/
def Observer.timing : Observer where
  template := Template.parse ":response-time of :total-time"
  blacklist := []
  clock n := .tick (.int (1250500 * n))
  callback := some fun _ _ => none
  sink _ _ := none

theorem isSteady_timing : Observer.timing.clock.IsSteady := by
  rintro m n _ _ hle ⟨⟩ ⟨⟩
  exact ⟨_, _, rfl, rfl, by omega⟩

theorem times_in_order_of_overlapping :
    .notified [(":response-time", "1.250"), (":total-time", "6.253")] ∈
        own 1 (trace (some .timing) overlappingCourses overlappingSchedule) ∧
      ∃ n n', Number.IsThousandths "1.250" n ∧ Number.IsThousandths "6.253" n' ∧ n ≤ n' := by
  have hnotified : .notified [(":response-time", "1.250"), (":total-time", "6.253")] ∈
      own 1 (trace (some .timing) overlappingCourses overlappingSchedule) := by decide +kernel
  have hresponse : IsTokenOf .responseTime ":response-time" := ⟨_, rfl, rfl⟩
  have htotal : IsTokenOf .totalTime ":total-time" := ⟨_, rfl, rfl⟩
  have htimes := (times_in_order isSteady_timing rfl rfl overlappingSchedule).2 _ hnotified
    _ _ "1.250" "6.253" hresponse htotal rfl rfl (by decide) (by decide)
  exact ⟨hnotified, htimes⟩

end Gateway

end AccessLog
