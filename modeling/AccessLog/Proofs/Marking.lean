import AccessLog.Proofs.Sessions

/-!
# A response start is recorded once, and as a whole

However a session goes on, it records at most one start of a response, with a tick and a
response that belong to the same message (`marksOnce_of_run`). Starts that come later are
turned down before the clock is read. One for which the clock or the headers fail leaves the
capture as it was.
-/

namespace AccessLog.Session

/-- Step `k` records the start of the response. -/
def MarksAt (sts : List SessionStep) (reports : List Report) (k : Nat) : Prop :=
  ∃ message s r, StepAt sts reports k (.mark message) s r ∧ r.result = .ok (.bool true)

/-- After this many reports the capture holds this tick and this response, and goes on to. -/
def HoldsAfter (reports : List Report) (k : Nat) (tick : Value) (response : Response) : Prop :=
  ∀ j q, k < j → reports[j]? = some q →
    q.session.capture.headersSentAt = tick ∧ q.session.capture.response = response

/-- The run of a session records at most one start of a response. -/
structure MarksOnce (clock : Clock) (sts : List SessionStep) (reports : List Report) : Prop where
  startedAt : ∃ tick, clock 0 = .tick tick ∧ ∀ q ∈ reports, q.session.capture.startedAt = tick
  unique : ∀ j k, MarksAt sts reports j → MarksAt sts reports k → j = k
  headersSent : ∀ k q, reports[k]? = some q →
    (q.session.capture.headersSent = true ↔ ∃ j < k, MarksAt sts reports j)
  recorded : ∀ k message s r, StepAt sts reports k (.mark message) s r →
    r.result = .ok (.bool true) →
    ∃ tick response, clock s.reads = .tick tick ∧ r.notices = [.clock (.tick tick)] ∧
      Response.ofStart message = .ok response ∧ HoldsAfter reports k tick response
  later : ∀ k message s r, StepAt sts reports k (.mark message) s r →
    (∃ j < k, MarksAt sts reports j) → r = ⟨.ok (.bool false), [], s⟩
  failed : ∀ k message s r, StepAt sts reports k (.mark message) s r →
    ∀ cause, r.result = .error cause → r.session.capture = s.capture

/-! ## What a step does to the marks -/

/-- The step records the start of the response in full. -/
structure MarksBy (clock : Clock) (s : Session) (st : SessionStep) (message tick : Value)
    (response : Response) : Prop where
  step : st = .mark message
  unsent : s.capture.headersSent = false
  reading : clock s.reads = .tick tick
  decoded : Response.ofStart message = .ok response
  report : s.step clock st = ⟨.ok (.bool true), [.clock (.tick tick)],
    ⟨{ s.capture with headersSentAt := tick, response }, s.reads + 1⟩⟩

/-- A step that does not record the start of the response leaves the marks alone. -/
theorem marksBy_or_sameMarks (clock : Clock) (s : Session) (st : SessionStep) :
    (∃ message tick response, MarksBy clock s st message tick response) ∨
      s.capture.SameMarks (s.step clock st).session.capture ∧
        ∀ message, st = .mark message → (s.step clock st).result ≠ .ok (.bool true) := by
  cases st with
  | mark message =>
      rcases mark_cases clock s message with
        ⟨-, hreport⟩ | ⟨hunsent, ⟨tick, response, htick, hresponse, hreport⟩ | ⟨cause, hreport⟩⟩
      · rw [hreport]
        exact Or.inr ⟨.refl _, by simp⟩
      · exact Or.inl ⟨message, tick, response, rfl, hunsent, htick, hresponse, hreport⟩
      · rw [hreport]
        exact Or.inr ⟨.refl _, by simp⟩
  | arm handler => exact Or.inr ⟨s.capture.sameMarks_arm handler, nofun⟩
  | finish => exact Or.inr ⟨s.capture.sameMarks_perform [.finish], nofun⟩
  | now =>
      rw [(step_now clock s).2]
      exact Or.inr ⟨.refl _, nofun⟩

/-! ## Runs -/

section Runs

variable {clock : Clock} {sts : List SessionStep} {reports : List Report}

theorem StepAt.unique {k : Nat} {st st' : SessionStep} {s s' : Session} {r r' : Report}
    (h : StepAt sts reports k st s r) (h' : StepAt sts reports k st' s' r') :
    st = st' ∧ s = s' ∧ r = r' :=
  ⟨Option.some.inj (h.step.symm.trans h'.step), Option.some.inj (h.session.symm.trans h'.session),
    Option.some.inj (h.report.symm.trans h'.report)⟩

theorem startedAt_of_run (hrun : run clock sts = .ok reports) :
    ∃ tick, clock 0 = .tick tick ∧ ∀ q ∈ reports, q.session.capture.startedAt = tick := by
  obtain ⟨tick, hclock, -⟩ := exists_of_run_eq_ok hrun
  refine ⟨tick, hclock, fun q hq => ?_⟩
  obtain ⟨k, hk⟩ := List.getElem?_of_mem hq
  refine run_keeps hrun (fun _ s => s.capture.startedAt = tick) ?_ ?_ hk
  · intro tick' hclock'
    exact Reading.tick.inj (hclock'.symm.trans hclock)
  · intro k st s _ hs
    rcases marksBy_or_sameMarks clock s st with ⟨message, t, response, h⟩ | ⟨hsame, -⟩
    · rw [h.report]
      exact hs
    · exact hsame.startedAt.trans hs

theorem headersSent_of_int {c : Capture Handler} {n : Int} (h : c.headersSentAt = .int n) :
    c.headersSent = true := by
  rw [Capture.headersSent, h]
  rfl

theorem headersSent_iff (hclock : ∀ n v, clock n = .tick v → ∃ k, v = .int k)
    (hrun : run clock sts = .ok reports) {k : Nat} {q : Report} (hq : reports[k]? = some q) :
    q.session.capture.headersSent = true ↔ ∃ j < k, MarksAt sts reports j := by
  refine run_keeps hrun
    (fun k s => s.capture.headersSent = true ↔ ∃ j < k, MarksAt sts reports j) ?_ ?_ hq
  · intro tick _
    exact ⟨nofun, fun ⟨_, hlt, _⟩ => absurd hlt (Nat.not_lt_zero _)⟩
  · intro k st s hat hs
    rcases marksBy_or_sameMarks clock s st with ⟨message, tick, response, h⟩ | ⟨hsame, hresult⟩
    · obtain ⟨n, rfl⟩ := hclock _ _ h.reading
      have hmarks : MarksAt sts reports k :=
        ⟨message, s, s.step clock st, by rw [← h.step]; exact hat, by rw [h.report]⟩
      refine iff_of_true ?_ ⟨k, Nat.lt_succ_self k, hmarks⟩
      rw [h.report]
      exact headersSent_of_int rfl
    · have hnot : ¬ MarksAt sts reports k := by
        rintro ⟨message, s', r', hat', htrue⟩
        obtain ⟨rfl, rfl, rfl⟩ := hat.unique hat'
        exact hresult message rfl htrue
      rw [Capture.headersSent, hsame.headersSentAt, ← Capture.headersSent, hs,
        Nat.exists_lt_succ_right, or_iff_left hnot]

theorem mark_of_headersSent {s : Session} (h : s.capture.headersSent = true) (message : Value) :
    s.step clock (.mark message) = ⟨.ok (.bool false), [], s⟩ := by
  rcases mark_cases clock s message with ⟨-, hreport⟩ | ⟨hunsent, -⟩
  · exact hreport
  · rw [h] at hunsent
    cases hunsent

theorem later_of_run (hclock : ∀ n v, clock n = .tick v → ∃ k, v = .int k)
    (hrun : run clock sts = .ok reports) {k : Nat} {message : Value} {s : Session} {r : Report}
    (hat : StepAt sts reports k (.mark message) s r) (hmarked : ∃ j < k, MarksAt sts reports j) :
    r = ⟨.ok (.bool false), [], s⟩ := by
  obtain ⟨q, hq, rfl⟩ := Option.map_eq_some_iff.mp hat.session
  have hsent := (headersSent_iff hclock hrun hq).mpr hmarked
  exact (hat.report_eq hrun).trans (mark_of_headersSent hsent message)

theorem holdsAfter_of_marksBy (hclock : ∀ n v, clock n = .tick v → ∃ k, v = .int k)
    (hrun : run clock sts = .ok reports) {k : Nat} {st : SessionStep} {s : Session} {r : Report}
    (hat : StepAt sts reports k st s r) {message tick : Value} {response : Response}
    (h : MarksBy clock s st message tick response) : HoldsAfter reports k tick response := by
  obtain ⟨n, rfl⟩ := hclock _ _ h.reading
  intro j q hlt hq
  refine run_keeps hrun (fun j s => k < j →
    s.capture.headersSentAt = .int n ∧ s.capture.response = response) ?_ ?_ hq hlt
  · intro _ _ hlt
    exact absurd hlt (Nat.not_lt_zero k)
  · intro j st' s' hat' hs hlt
    rcases Nat.lt_or_eq_of_le (Nat.le_of_lt_succ hlt) with hbefore | rfl
    · obtain ⟨hsentAt, hresponse⟩ := hs hbefore
      rcases marksBy_or_sameMarks clock s' st' with ⟨_, _, _, h'⟩ | ⟨hsame, -⟩
      · have hsent := headersSent_of_int hsentAt
        rw [h'.unsent] at hsent
        cases hsent
      · exact ⟨hsame.headersSentAt.trans hsentAt, hsame.response.trans hresponse⟩
    · obtain ⟨rfl, rfl, -⟩ := hat.unique hat'
      rw [h.report]
      exact ⟨rfl, rfl⟩

/-- **Recording once.** With a clock that reads integers or fails, a session that has started
keeps the tick of its start and records at most one start of a response, whatever it is given
to record and whatever its handlers do. The tick and the response that are recorded belong to
the message that was given, and stay. Every later start is turned down without a look at the
clock, and one that fails leaves the whole capture as it was. -/
theorem marksOnce_of_run (hclock : ∀ n v, clock n = .tick v → ∃ k, v = .int k)
    (hrun : run clock sts = .ok reports) : MarksOnce clock sts reports where
  startedAt := startedAt_of_run hrun
  unique := by
    have hlater : ∀ j k, MarksAt sts reports j → MarksAt sts reports k → ¬ j < k := by
      rintro j k hj ⟨message, s, r, hat, htrue⟩ hlt
      rw [later_of_run hclock hrun hat ⟨j, hlt, hj⟩] at htrue
      cases htrue
    intro j k hj hk
    have hjk := hlater j k hj hk
    have hkj := hlater k j hk hj
    omega
  headersSent _ _ hq := headersSent_iff hclock hrun hq
  recorded k message s r hat htrue := by
    obtain rfl := hat.report_eq hrun
    rcases marksBy_or_sameMarks clock s (.mark message) with
      ⟨message', tick, response, h⟩ | ⟨-, hresult⟩
    · obtain rfl := SessionStep.mark.inj h.step
      exact ⟨tick, response, h.reading, by rw [h.report], h.decoded,
        holdsAfter_of_marksBy hclock hrun hat h⟩
    · exact absurd htrue (hresult message rfl)
  later _ _ _ _ hat hmarked := later_of_run hclock hrun hat hmarked
  failed k message s r hat cause hfails := by
    obtain rfl := hat.report_eq hrun
    rcases mark_cases clock s message with
      ⟨-, hreport⟩ | ⟨-, ⟨tick, response, -, -, hreport⟩ | ⟨cause', hreport⟩⟩
    · rw [hreport]
    · rw [hreport] at hfails
      cases hfails
    · rw [hreport]

end Runs

/-- A clock that fails at its second read. -/
def skipping : Clock :=
  Clock.ofReadings [.tick (.int 3), .fails (.raised .os "stopped"), .tick (.int 5), .tick (.int 8)]

/-- The clock fails for the first start, the headers of the second one cannot be read, and the
third one is recorded. -/
def markingSteps : List SessionStep :=
  [.mark (.table [(.text "status", .int 500)]),
    .mark (.table [(.text "status", .int 501), (.text "headers", .int 1)]),
    .arm ⟨"line", [.finish]⟩, .mark (.table [(.text "status", .int 200)]), .mark (.int 7), .now]

theorem marksOnce_skipping :
    ∃ reports, run skipping markingSteps = .ok reports ∧ MarksOnce skipping markingSteps reports ∧
      MarksAt markingSteps reports 3 := by
  refine ⟨_, rfl, marksOnce_of_run ?_ rfl, ⟨_, _, _, ⟨rfl, rfl, rfl⟩, rfl⟩⟩
  rintro (_ | _ | _ | _ | n) v hv
  · exact ⟨3, (Reading.tick.inj hv).symm⟩
  · cases hv
  · exact ⟨5, (Reading.tick.inj hv).symm⟩
  iterate 2 exact ⟨8, (Reading.tick.inj hv).symm⟩

end AccessLog.Session
