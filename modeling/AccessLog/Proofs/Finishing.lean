import AccessLog.Proofs.Sessions

/-!
# The handler starts at most once

A handler may call for finishing again, arm other handlers and fail, and it may do so while
its own exchange is being finished. All the same at most one handler starts in a session: the
one that was armed last before the session was finished for the first time, and it starts
within that call (`finishesOnce_of_run`). The capture counts as finished before the handler
starts, which is why the calls of the handler itself, and all that come later, have no effect.
-/

namespace AccessLog

/-- The handler that a step arms. -/
def SessionStep.armed? : SessionStep → Option Handler
  | arm handler => some handler
  | _ => none

def Notice.started? : Notice → Option String
  | ran name => some name
  | _ => none

/-- The names of the handlers that start while a step is taken. -/
def Report.started (r : Report) : List String := r.notices.filterMap Notice.started?

/-- The handler that these steps have armed last. -/
def lastArmed (sts : List SessionStep) : Option Handler :=
  (sts.filterMap SessionStep.armed?).getLast?

theorem lastArmed_append (sts : List SessionStep) (st : SessionStep) :
    lastArmed (sts ++ [st]) = st.armed?.or (lastArmed sts) := by
  rw [lastArmed, List.filterMap_append]
  cases h : st.armed? <;> simp [lastArmed, h]

namespace Session

/-- One of the first `k` steps finishes the session. -/
def FinishedBefore (sts : List SessionStep) (k : Nat) : Prop :=
  ∃ j < k, sts[j]? = some SessionStep.finish

/-- Step `k` is the first one that finishes the session. -/
structure FinishesFirst (sts : List SessionStep) (k : Nat) : Prop where
  finishes : sts[k]? = some SessionStep.finish
  first : ¬ FinishedBefore sts k

/-- The run of a session starts at most one handler. -/
structure FinishesOnce (sts : List SessionStep) (reports : List Report) : Prop where
  finished : ∀ (k : Nat) (q : Report), reports[k]? = some q →
    (q.session.capture.finished = true ↔ FinishedBefore sts k)
  armed : ∀ k s r handler, FinishesFirst sts k → lastArmed (sts.take k) = some handler →
    StepAt sts reports k .finish s r → FinishesBy s handler r
  unarmed : ∀ k s r, FinishesFirst sts k → lastArmed (sts.take k) = none →
    StepAt sts reports k .finish s r →
    r = ⟨.ok .null, [.logged unarmedRemark], ⟨s.capture.finish, s.reads⟩⟩
  later : ∀ k s r, FinishedBefore sts k → StepAt sts reports k .finish s r →
    r = ⟨.ok .null, [], s⟩
  started : ∀ k, FinishesFirst sts k →
    reports.flatMap Report.started = (lastArmed (sts.take k)).toList.map Handler.name
  unstarted : (∀ k, ¬ FinishesFirst sts k) → reports.flatMap Report.started = []

theorem not_finishedBefore_zero (sts : List SessionStep) : ¬ FinishedBefore sts 0 :=
  fun ⟨_, hlt, _⟩ => absurd hlt (Nat.not_lt_zero _)

theorem finishedBefore_succ_iff {sts : List SessionStep} {k : Nat} {st : SessionStep}
    (hst : sts[k]? = some st) :
    FinishedBefore sts (k + 1) ↔ FinishedBefore sts k ∨ st = .finish := by
  rw [FinishedBefore, Nat.exists_lt_succ_right, hst, Option.some.injEq, ← FinishedBefore]

theorem FinishesFirst.unique {sts : List SessionStep} {j k : Nat} (hj : FinishesFirst sts j)
    (hk : FinishesFirst sts k) : j = k := by
  rcases Nat.lt_trichotomy j k with hlt | heq | hlt
  · exact absurd ⟨j, hlt, hj.finishes⟩ hk.first
  · exact heq
  · exact absurd ⟨k, hlt, hk.finishes⟩ hj.first

/-! ## What a step does to the handler -/

theorem finished_step_iff (clock : Clock) (s : Session) (st : SessionStep) :
    (s.step clock st).session.capture.finished = true ↔
      s.capture.finished = true ∨ st = .finish := by
  cases st with
  | arm handler => simp [step, Capture.arm]
  | now => simp [(step_now clock s).2]
  | mark message =>
      rcases mark_cases clock s message with
        ⟨-, h⟩ | ⟨-, ⟨tick, response, -, -, h⟩ | ⟨cause, h⟩⟩ <;> simp [h]
  | finish =>
      refine iff_of_true ?_ (Or.inr rfl)
      rcases finish_cases clock s with ⟨h, hreport⟩ | ⟨-, ⟨-, hreport⟩ | ⟨handler, -, hby⟩⟩
      · rw [hreport]
        exact h
      · rw [hreport]
        rfl
      · rw [hby.session]
        exact (Capture.perform_of_finished rfl handler.body).2

/-- As long as a session is not finished, its handler is the one armed last. -/
theorem handler_step (clock : Clock) (s : Session) {st : SessionStep} (h : st ≠ .finish) :
    (s.step clock st).session.capture.handler = st.armed?.or s.capture.handler := by
  cases st with
  | arm handler => rfl
  | now => simp [(step_now clock s).2, SessionStep.armed?]
  | mark message =>
      rcases mark_cases clock s message with
        ⟨-, h⟩ | ⟨-, ⟨tick, response, -, -, h⟩ | ⟨cause, h⟩⟩ <;> simp [h, SessionStep.armed?]
  | finish => exact absurd rfl h

/-- Only a call that finishes the session starts a handler. -/
theorem started_step_eq_nil (clock : Clock) (s : Session) {st : SessionStep}
    (h : st = .finish → s.capture.finished = true) : (s.step clock st).started = [] := by
  cases st with
  | arm handler => rfl
  | now => simp [Report.started, (step_now clock s).1, Notice.started?]
  | mark message =>
      rcases mark_cases clock s message with
        ⟨-, h⟩ | ⟨-, ⟨tick, response, -, -, h⟩ | ⟨cause, h⟩⟩ <;>
        simp [Report.started, h, Notice.started?]
  | finish =>
      rcases finish_cases clock s with ⟨-, hreport⟩ | ⟨hunfinished, -⟩
      · rw [hreport]
        rfl
      · rw [h rfl] at hunfinished
        cases hunfinished

/-! ## Runs -/

section Runs

variable {clock : Clock} {sts : List SessionStep} {reports : List Report}

theorem finished_iff (hrun : run clock sts = .ok reports) {k : Nat} {q : Report}
    (hq : reports[k]? = some q) :
    q.session.capture.finished = true ↔ FinishedBefore sts k := by
  refine run_keeps hrun (fun k s => s.capture.finished = true ↔ FinishedBefore sts k) ?_ ?_ hq
  · intro tick _
    exact iff_of_false nofun (not_finishedBefore_zero sts)
  · intro k st s hat hs
    rw [finished_step_iff, hs, finishedBefore_succ_iff hat.step]

theorem StepAt.finished_iff (hrun : run clock sts = .ok reports) {k : Nat} {st : SessionStep}
    {s : Session} {r : Report} (hat : StepAt sts reports k st s r) :
    s.capture.finished = true ↔ FinishedBefore sts k := by
  obtain ⟨q, hq, rfl⟩ := Option.map_eq_some_iff.mp hat.session
  exact Session.finished_iff hrun hq

theorem handler_of_unfinished (hrun : run clock sts = .ok reports) {k : Nat} {q : Report}
    (hq : reports[k]? = some q) (hfirst : ¬ FinishedBefore sts k) :
    q.session.capture.handler = lastArmed (sts.take k) := by
  refine run_keeps hrun (fun k s => ¬ FinishedBefore sts k →
    s.capture.handler = lastArmed (sts.take k)) ?_ ?_ hq hfirst
  · intro _ _ _
    rfl
  · intro k st s hat hs hfirst
    -- Before the first call for finishing no earlier step has finished the session either.
    rw [finishedBefore_succ_iff hat.step, not_or] at hfirst
    obtain ⟨hbefore, hne⟩ := hfirst
    rw [handler_step clock s hne, hs hbefore, List.take_add_one, hat.step, Option.toList_some,
      lastArmed_append]

/-- The first call for finishing goes by the handler that has been armed last. -/
theorem finishes_of_first (hrun : run clock sts = .ok reports) {k : Nat} {s : Session} {r : Report}
    (h : FinishesFirst sts k) (hat : StepAt sts reports k .finish s r) :
    lastArmed (sts.take k) = none ∧
        r = ⟨.ok .null, [.logged unarmedRemark], ⟨s.capture.finish, s.reads⟩⟩ ∨
      ∃ handler, lastArmed (sts.take k) = some handler ∧ FinishesBy s handler r := by
  obtain ⟨q, hq, rfl⟩ := Option.map_eq_some_iff.mp hat.session
  obtain rfl := hat.report_eq hrun
  have hhandler := handler_of_unfinished hrun hq h.first
  rw [← hhandler]
  rcases finish_cases clock q.session with ⟨hfinished, -⟩ | ⟨-, hcases⟩
  · exact absurd ((finished_iff hrun hq).mp hfinished) h.first
  · exact hcases

theorem finish_of_finishedBefore (hrun : run clock sts = .ok reports) {k : Nat} {s : Session}
    {r : Report} (h : FinishedBefore sts k) (hat : StepAt sts reports k .finish s r) :
    r = ⟨.ok .null, [], s⟩ := by
  have hfinished := (hat.finished_iff hrun).mpr h
  rw [hat.report_eq hrun]
  rcases finish_cases clock s with ⟨-, hreport⟩ | ⟨hunfinished, -⟩
  · exact hreport
  · rw [hfinished] at hunfinished
    cases hunfinished

theorem started_eq_nil (hrun : run clock sts = .ok reports) {k : Nat} {q : Report}
    (hq : reports[k]? = some q) (hnot : ∀ j, FinishesFirst sts j → k ≠ j + 1) :
    q.started = [] := by
  cases k with
  | zero =>
      obtain ⟨tick, -, rfl⟩ := exists_of_run_eq_ok hrun
      obtain rfl := Option.some.inj hq
      rfl
  | succ k =>
      obtain ⟨st, s, hat⟩ := exists_stepAt hrun hq
      obtain rfl := hat.report_eq hrun
      refine started_step_eq_nil clock s fun hst => ?_
      subst hst
      rw [hat.finished_iff hrun]
      exact Classical.byContradiction fun hfirst => hnot k ⟨hat.step, hfirst⟩ rfl

theorem flatMap_eq_of_getElem? {α β : Type} {f : α → List β} {xs : List α} {m : Nat} {x : α}
    (hx : xs[m]? = some x) (hnil : ∀ k y, xs[k]? = some y → k ≠ m → f y = []) :
    xs.flatMap f = f x := by
  induction xs generalizing m with
  | nil => cases hx
  | cons y ys ih =>
      cases m with
      | zero =>
          obtain rfl := Option.some.inj hx
          have hrest : ys.flatMap f = [] := by
            refine List.flatMap_eq_nil_iff.mpr fun z hz => ?_
            obtain ⟨k, hk⟩ := List.getElem?_of_mem hz
            exact hnil (k + 1) z hk (Nat.succ_ne_zero k)
          rw [List.flatMap_cons, hrest, List.append_nil]
      | succ m =>
          have hrest := ih hx fun k z hk hne => hnil (k + 1) z hk fun h => hne (Nat.succ.inj h)
          rw [List.flatMap_cons, hnil 0 y rfl (Nat.succ_ne_zero m).symm, hrest]
          rfl

theorem flatMap_started (hrun : run clock sts = .ok reports) {k : Nat} (h : FinishesFirst sts k) :
    reports.flatMap Report.started = (lastArmed (sts.take k)).toList.map Handler.name := by
  obtain ⟨s, r, hat⟩ := exists_stepAt_of_getElem? hrun h.finishes
  have hflat : reports.flatMap Report.started = r.started :=
    flatMap_eq_of_getElem? hat.report fun j q hq hne => started_eq_nil hrun hq fun k' h' => by
      rwa [h'.unique h]
  rw [hflat]
  rcases finishes_of_first hrun h hat with ⟨hnone, rfl⟩ | ⟨handler, hsome, hby⟩
  · rw [hnone]
    rfl
  · rw [hsome, Report.started, hby.notices]
    rfl

/-- **Finishing once.** In the run of a session at most one handler starts, whatever handlers
do: the one that is armed when the session is finished for the first time, within that call,
and none if there is none. From the start of that call on the session counts as finished, also
when the handler fails, and all other calls for finishing have no effect, be they made by the
handler or later on. -/
theorem finishesOnce_of_run (hrun : run clock sts = .ok reports) : FinishesOnce sts reports where
  finished _ _ hq := finished_iff hrun hq
  armed k s r handler h harmed hat := by
    rcases finishes_of_first hrun h hat with ⟨hnone, -⟩ | ⟨other, hother, hby⟩
    · rw [harmed] at hnone
      cases hnone
    · rw [harmed] at hother
      obtain rfl := Option.some.inj hother
      exact hby
  unarmed k s r h hnone hat := by
    rcases finishes_of_first hrun h hat with ⟨-, hreport⟩ | ⟨other, hother, -⟩
    · exact hreport
    · rw [hnone] at hother
      cases hother
  later _ _ _ h hat := finish_of_finishedBefore hrun h hat
  started _ h := flatMap_started hrun h
  unstarted hnone := by
    refine List.flatMap_eq_nil_iff.mpr fun q hq => ?_
    obtain ⟨k, hk⟩ := List.getElem?_of_mem hq
    exact started_eq_nil hrun hk fun j h => absurd h (hnone j)

end Runs

/-- A handler that calls for finishing, arms another one and fails. -/
def unruly : Handler where
  name := "unruly"
  body := [.finish, .arm "armed inside" [.finish, .arm "armed deeper" []], .finish,
    .fail (.raised .runtime "boom"), .finish]

/-- The unruly handler takes the place of another one, and comes into action. -/
def finishingSteps : List SessionStep :=
  [.arm ⟨"replaced", []⟩, .arm unruly, .now, .finish, .arm ⟨"armed after", []⟩, .finish]

theorem finishesOnce_unruly :
    ∃ reports, run (Clock.ofReadings []) finishingSteps = .ok reports ∧
      FinishesOnce finishingSteps reports ∧ reports.flatMap Report.started = ["unruly"] := by
  have hfirst : FinishesFirst finishingSteps 3 := by
    refine ⟨rfl, ?_⟩
    rintro ⟨_ | _ | _ | j, hlt, hj⟩
    iterate 3 cases hj
    omega
  obtain ⟨reports, hrun⟩ : ∃ reports, run (Clock.ofReadings []) finishingSteps = .ok reports :=
    ⟨_, rfl⟩
  exact ⟨reports, hrun, finishesOnce_of_run hrun, (finishesOnce_of_run hrun).started 3 hfirst⟩

end Session

end AccessLog
