import AccessLog.Capture.Session

/-!
# Sessions step by step

A run of a session gives one report for its start and one for each of its steps, and each
report comes from the session that the one before left (`StepAt.report_eq`). What the start
has and every step keeps holds after any number of steps (`Session.run_keeps`).

The steps themselves come to few ends: recording the start of a response records all of it or
changes nothing (`mark_cases`), and finishing goes by the armed handler the first time
(`finish_cases`) and has no effect afterwards. A handler may act on its capture in any way, but
it never touches what is recorded of the exchange (`Capture.sameMarks_perform`).
-/

namespace AccessLog

namespace Capture

/-! ## Handlers at work -/

/-- Two captures have recorded the same of their exchange. -/
structure SameMarks (c c' : Capture Handler) : Prop where
  startedAt : c'.startedAt = c.startedAt
  headersSentAt : c'.headersSentAt = c.headersSentAt
  response : c'.response = c.response

theorem SameMarks.refl (c : Capture Handler) : SameMarks c c := ⟨rfl, rfl, rfl⟩

theorem SameMarks.trans {c c' c'' : Capture Handler} (h : SameMarks c c') (h' : SameMarks c' c'') :
    SameMarks c c'' where
  startedAt := h'.startedAt.trans h.startedAt
  headersSentAt := h'.headersSentAt.trans h.headersSentAt
  response := h'.response.trans h.response

theorem sameMarks_arm (c : Capture Handler) (handler : Handler) : SameMarks c (c.arm handler) :=
  ⟨rfl, rfl, rfl⟩

theorem sameMarks_finish (c : Capture Handler) : SameMarks c c.finish := ⟨rfl, rfl, rfl⟩

variable {c : Capture Handler} {rest : List Action}

theorem perform_nil (c : Capture Handler) : c.perform [] = ⟨[], c, none⟩ := by rw [perform]

theorem perform_arm (c : Capture Handler) (name : String) (body rest : List Action) :
    c.perform (.arm name body :: rest) = (c.arm ⟨name, body⟩).perform rest := by
  rw [perform]

theorem perform_fail (c : Capture Handler) (cause : Failure) (rest : List Action) :
    c.perform (.fail cause :: rest) = ⟨[], c, some cause⟩ := by
  rw [perform]

theorem perform_finish_of_finished (h : c.finished = true) :
    c.perform (.finish :: rest) = c.perform rest := by
  rw [perform, if_pos h]

theorem perform_finish_of_unarmed (h : c.finished = false) (hhandler : c.handler = none) :
    c.perform (.finish :: rest) = (c.finish.perform rest).after (.logged unarmedRemark) := by
  rw [perform, if_neg (by simp [h]), hhandler]

theorem perform_finish_of_armed (h : c.finished = false) {handler : Handler}
    (hhandler : c.handler = some handler) :
    c.perform (.finish :: rest) =
      (c.finish.perform (handler.body ++ rest)).after (.ran handler.name) := by
  rw [perform, if_neg (by simp [h]), hhandler]

theorem sameMarks_perform (c : Capture Handler) (actions : List Action) :
    SameMarks c (c.perform actions).capture := by
  fun_induction perform c actions with
  | case1 c => exact .refl c
  | case2 c name body rest ih => exact (sameMarks_arm c _).trans ih
  | case3 c cause rest => exact .refl c
  | case4 c rest hfinished ih => exact ih
  | case5 c rest hfinished hhandler ih => exact c.sameMarks_finish.trans ih
  | case6 c rest hfinished handler hhandler ih => exact c.sameMarks_finish.trans ih

/-- In a capture that counts as finished no handler starts, and it stays finished. -/
theorem perform_of_finished {c : Capture Handler} (h : c.finished = true) (actions : List Action) :
    (c.perform actions).notices = [] ∧ (c.perform actions).capture.finished = true := by
  induction actions generalizing c with
  | nil =>
      rw [perform_nil]
      exact ⟨rfl, h⟩
  | cons action rest ih =>
      cases action with
      | finish =>
          rw [perform_finish_of_finished h]
          exact ih h
      | arm name body =>
          rw [perform_arm]
          exact ih h
      | fail cause =>
          rw [perform_fail]
          exact ⟨rfl, h⟩

/-- In a capture that counts as finished, a call for finishing is as good as none. -/
theorem perform_append_finish {c : Capture Handler} (h : c.finished = true)
    (front rest : List Action) :
    c.perform (front ++ .finish :: rest) = c.perform (front ++ rest) := by
  induction front generalizing c with
  | nil => exact perform_finish_of_finished h
  | cons action front ih =>
      rw [List.cons_append, List.cons_append]
      cases action with
      | finish => rw [perform_finish_of_finished h, perform_finish_of_finished h, ih h]
      | arm name body =>
          rw [perform_arm, perform_arm]
          exact ih h
      | fail cause => rw [perform_fail, perform_fail]

end Capture

namespace Session

/-! ## One step -/

section Steps

variable (clock : Clock) (s : Session)

/-- Recording a start that is not recorded yet reads the clock. It records the tick and the
response of the message together, or fails and records nothing. -/
theorem mark_cases (message : Value) :
    (s.capture.headersSent = true ∧ s.step clock (.mark message) = ⟨.ok (.bool false), [], s⟩) ∨
      s.capture.headersSent = false ∧
        ((∃ tick response, clock s.reads = .tick tick ∧
            Response.ofStart message = .ok response ∧
            s.step clock (.mark message) = ⟨.ok (.bool true), [.clock (.tick tick)],
              ⟨{ s.capture with headersSentAt := tick, response }, s.reads + 1⟩⟩) ∨
          ∃ cause, s.step clock (.mark message) =
            ⟨.error cause, [.clock (clock s.reads)], ⟨s.capture, s.reads + 1⟩⟩) := by
  unfold step
  dsimp only
  cases hsent : s.capture.headersSent with
  | true => exact Or.inl ⟨rfl, rfl⟩
  | false =>
      refine Or.inr ⟨rfl, ?_⟩
      simp only [Bool.false_eq_true, if_false, withTick]
      cases hreading : clock s.reads with
      | fails cause => exact Or.inr ⟨cause, rfl⟩
      | tick tick =>
          cases hresponse : Response.ofStart message with
          | ok response =>
              have hmark : s.capture.mark tick message =
                  .ok { s.capture with headersSentAt := tick, response } := by
                rw [Capture.mark, hresponse]
                rfl
              exact Or.inl ⟨tick, response, rfl, rfl, by simp only [hmark]⟩
          | error cause =>
              have hmark : s.capture.mark tick message = .error cause := by
                rw [Capture.mark, hresponse]
                rfl
              exact Or.inr ⟨.fault cause, by simp only [hmark]⟩

theorem step_now :
    (s.step clock .now).notices = [.clock (clock s.reads)] ∧
      (s.step clock .now).session = ⟨s.capture, s.reads + 1⟩ := by
  unfold step withTick
  cases clock s.reads <;> exact ⟨rfl, rfl⟩

end Steps

/-- What a performance gives back to the one who called for it. -/
def resultOf (p : Performance) : Except Failure Value :=
  match p.failure with
  | some cause => .error cause
  | none => .ok .null

/-- A session finishes by its handler: the handler starts, in a capture that counts as finished
already, and nothing else does. -/
structure FinishesBy (s : Session) (handler : Handler) (r : Report) : Prop where
  notices : r.notices = [.ran handler.name]
  session : r.session = ⟨(s.capture.finish.perform handler.body).capture, s.reads⟩
  result : r.result = resultOf (s.capture.finish.perform handler.body)
  nested : ∀ front rest, handler.body = front ++ .finish :: rest →
    s.capture.finish.perform handler.body = s.capture.finish.perform (front ++ rest)

/-- Finishing has no effect on a session that has finished. Otherwise it goes by the armed
handler, and without one it leaves a remark. -/
theorem finish_cases (clock : Clock) (s : Session) :
    (s.capture.finished = true ∧ s.step clock .finish = ⟨.ok .null, [], s⟩) ∨
      s.capture.finished = false ∧
        (s.capture.handler = none ∧ s.step clock .finish =
            ⟨.ok .null, [.logged unarmedRemark], ⟨s.capture.finish, s.reads⟩⟩ ∨
          ∃ handler, s.capture.handler = some handler ∧
            FinishesBy s handler (s.step clock .finish)) := by
  unfold step act
  dsimp only
  cases hfinished : s.capture.finished with
  | true =>
      rw [Capture.perform_finish_of_finished hfinished, Capture.perform_nil]
      exact Or.inl ⟨rfl, rfl⟩
  | false =>
      refine Or.inr ⟨rfl, ?_⟩
      cases hhandler : s.capture.handler with
      | none =>
          rw [Capture.perform_finish_of_unarmed hfinished hhandler, Capture.perform_nil]
          exact Or.inl ⟨rfl, rfl⟩
      | some handler =>
          have hstarted : s.capture.finish.finished = true := rfl
          rw [Capture.perform_finish_of_armed hfinished hhandler, List.append_nil]
          refine Or.inr ⟨handler, rfl, ?_, rfl, rfl, fun front rest hbody => ?_⟩
          · show Notice.ran handler.name :: _ = _
            rw [(Capture.perform_of_finished hstarted handler.body).1]
          · rw [hbody, Capture.perform_append_finish hstarted]

/-! ## Whole runs -/

/-- Step `k` of a run was this one, taken by this session, and it came to this report. -/
structure StepAt (sts : List SessionStep) (reports : List Report) (k : Nat) (st : SessionStep)
    (s : Session) (r : Report) : Prop where
  step : sts[k]? = some st
  session : reports[k]?.map Report.session = some s
  report : reports[k + 1]? = some r

section Runs

variable {clock : Clock} {sts : List SessionStep} {reports : List Report}

theorem length_steps (s : Session) (sts : List SessionStep) :
    (s.steps clock sts).length = sts.length := by
  induction sts generalizing s with
  | nil => rfl
  | cons st rest ih => exact congrArg (· + 1) (ih _)

/-- The report of a step comes from the session that the report before it left. -/
theorem getElem?_cons_steps {report q : Report} {k : Nat} {st : SessionStep}
    (hq : (report :: report.session.steps clock sts)[k]? = some q) (hst : sts[k]? = some st) :
    (report :: report.session.steps clock sts)[k + 1]? = some (q.session.step clock st) := by
  induction sts generalizing report k with
  | nil => cases hst
  | cons first rest ih =>
      cases k with
      | zero =>
          obtain rfl := Option.some.inj hq
          obtain rfl := Option.some.inj hst
          rfl
      | succ k => exact ih hq hst

theorem exists_of_run_eq_ok (h : run clock sts = .ok reports) :
    ∃ tick, clock 0 = .tick tick ∧
      reports = ⟨.ok .null, [.clock (.tick tick)], ⟨Capture.start tick, 1⟩⟩ ::
        steps clock ⟨Capture.start tick, 1⟩ sts := by
  unfold run start at h
  cases hreading : clock 0 with
  | fails cause => rw [hreading] at h; cases h
  | tick tick =>
      rw [hreading] at h
      exact ⟨tick, rfl, (Except.ok.inj h).symm⟩

theorem StepAt.report_eq (hrun : run clock sts = .ok reports) {k : Nat} {st : SessionStep}
    {s : Session} {r : Report} (h : StepAt sts reports k st s r) : r = s.step clock st := by
  obtain ⟨tick, -, rfl⟩ := exists_of_run_eq_ok hrun
  obtain ⟨q, hq, rfl⟩ := Option.map_eq_some_iff.mp h.session
  have hnext := getElem?_cons_steps hq h.step
  exact Option.some.inj (h.report.symm.trans hnext)

theorem length_of_run (hrun : run clock sts = .ok reports) : reports.length = sts.length + 1 := by
  obtain ⟨tick, -, rfl⟩ := exists_of_run_eq_ok hrun
  rw [List.length_cons, length_steps]

theorem exists_stepAt_of_getElem? (hrun : run clock sts = .ok reports) {k : Nat}
    {st : SessionStep} (hst : sts[k]? = some st) : ∃ s r, StepAt sts reports k st s r := by
  have hlength := length_of_run hrun
  have hlt := (List.getElem?_eq_some_iff.mp hst).1
  have hbefore : k < reports.length := by omega
  have hafter : k + 1 < reports.length := by omega
  refine ⟨reports[k].session, reports[k + 1], hst, ?_, List.getElem?_eq_getElem hafter⟩
  rw [List.getElem?_eq_getElem hbefore]
  rfl

/-- Every report but the first one is that of a step. -/
theorem exists_stepAt (hrun : run clock sts = .ok reports) {k : Nat} {r : Report}
    (hr : reports[k + 1]? = some r) : ∃ st s, StepAt sts reports k st s r := by
  have hlength := length_of_run hrun
  have hlt := (List.getElem?_eq_some_iff.mp hr).1
  have hst : k < sts.length := by omega
  obtain ⟨s, r', hat⟩ := exists_stepAt_of_getElem? hrun (List.getElem?_eq_getElem hst)
  obtain rfl := Option.some.inj (hr.symm.trans hat.report)
  exact ⟨_, s, hat⟩

/-- What holds of the session after its start, and is kept by every step, holds after any
number of steps. -/
theorem run_keeps (hrun : run clock sts = .ok reports) (Inv : Nat → Session → Prop)
    (hstart : ∀ tick, clock 0 = .tick tick → Inv 0 ⟨Capture.start tick, 1⟩)
    (hstep : ∀ {k st s}, StepAt sts reports k st s (s.step clock st) → Inv k s →
      Inv (k + 1) (s.step clock st).session) :
    ∀ {k q}, reports[k]? = some q → Inv k q.session := by
  intro k
  induction k with
  | zero =>
      intro q hq
      obtain ⟨tick, hclock, rfl⟩ := exists_of_run_eq_ok hrun
      obtain rfl := Option.some.inj hq
      exact hstart tick hclock
  | succ k ih =>
      intro r hr
      obtain ⟨st, s, hat⟩ := exists_stepAt hrun hr
      obtain rfl := hat.report_eq hrun
      obtain ⟨q, hq, rfl⟩ := Option.map_eq_some_iff.mp hat.session
      exact hstep hat (ih hq)

end Runs

end Session

end AccessLog
