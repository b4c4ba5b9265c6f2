import AccessLog.Proofs.Isolation

/-!
# The clock is read in order

Everything that an exchange does reads the clock forward from where it stands, one answer
after the other and none twice (`ReadsOn`), and every read is found among the events. In a
run of many exchanges the readings of one of them therefore stand in the order of the clock,
whatever the other ones read in between (`State.readings_run`). With a clock that never goes
back, they ascend (`ascending_readings_own`).
-/

namespace AccessLog

namespace Clock

/-- The clock shows integers and never goes back, as long as it does not fail. -/
def IsSteady (clock : Clock) : Prop :=
  ∀ m n v w, m ≤ n → clock m = .tick v → clock n = .tick w →
    ∃ a b : Int, v = .int a ∧ w = .int b ∧ a ≤ b

/-- What the clock answers to these reads. -/
def answers (clock : Clock) (ns : List Nat) : List Reading := ns.map fun n => clock n

theorem answers_append (clock : Clock) (ns ms : List Nat) :
    clock.answers (ns ++ ms) = clock.answers ns ++ clock.answers ms :=
  List.map_append

end Clock

/-- The readings show integers, none of which is below an earlier one. -/
def Ascending (rs : List Reading) : Prop :=
  rs.Pairwise fun r r' => ∀ v w, r = .tick v → r' = .tick w →
    ∃ a b : Int, v = .int a ∧ w = .int b ∧ a ≤ b

theorem Clock.IsSteady.ascending_answers {clock : Clock} (h : clock.IsSteady) {ns : List Nat}
    (hns : ns.Pairwise (· < ·)) : Ascending (clock.answers ns) := by
  refine List.pairwise_map.mpr (hns.imp ?_)
  intro m n hlt v w hv hw
  exact h m n v w (Nat.le_of_lt hlt) hv hw

theorem Ascending.le {rs earlier between later : List Reading} {v w : Value} (h : Ascending rs)
    (hsplit : rs = earlier ++ .tick v :: (between ++ .tick w :: later)) :
    ∃ a b : Int, v = .int a ∧ w = .int b ∧ a ≤ b := by
  subst hsplit
  have htail := (List.pairwise_append.mp h).2.1
  exact (List.pairwise_cons.mp htail).1 (.tick w) (by simp) v w rfl rfl

namespace Gateway

/-! ## Reading on -/

/-- The activity reads the clock from where it stands, and its events show what it read. -/
def ReadsOn {α : Type} (clock : Clock) (x : Activity α) : Prop :=
  ∀ reads l, ∃ n, (x reads l).reads = reads + n ∧
    readings (x reads l).events = clock.answers (List.range' reads n)

section Closure

variable {α β : Type} {clock : Clock}

theorem ReadsOn.bind {x : Activity α} {f : α → Activity β} (h : ReadsOn clock x)
    (hf : ∀ a, ReadsOn clock (f a)) : ReadsOn clock (x >>= f) := by
  intro reads l
  obtain ⟨n, hreads, hevents⟩ := h reads l
  cases hx : (x reads l).result with
  | error cause =>
      rw [Activity.bind_apply_of_error hx]
      exact ⟨n, hreads, hevents⟩
  | ok a =>
      obtain ⟨m, hreads', hevents'⟩ := hf a (x reads l).reads (x reads l).live
      rw [Activity.bind_apply_of_ok hx]
      refine ⟨n + m, ?_, ?_⟩
      · rw [hreads', hreads, Nat.add_assoc]
      · rw [readings_append, hevents, hevents', hreads, ← Clock.answers_append,
          List.range'_append_1]

theorem ReadsOn.attempt {x : Activity α} (h : ReadsOn clock x) : ReadsOn clock x.attempt := h

/-- What never reads the clock reads on. -/
theorem readsOn_pure (a : α) : ReadsOn clock (pure a : Activity α) := fun _ _ => ⟨0, rfl, rfl⟩

theorem readsOn_fail (cause : Failure) : ReadsOn clock (Activity.fail cause : Activity α) :=
  fun _ _ => ⟨0, rfl, rfl⟩

theorem readsOn_live : ReadsOn clock Activity.live := fun _ _ => ⟨0, rfl, rfl⟩

theorem readsOn_change (f : Live → Live) : ReadsOn clock (Activity.change f) :=
  fun _ _ => ⟨0, rfl, rfl⟩

theorem readsOn_leave {e : Event} (he : readings [e] = []) : ReadsOn clock (Activity.leave e) :=
  fun _ _ => ⟨0, rfl, he⟩

theorem readsOn_ofExcept (x : Except Fault α) : ReadsOn clock (Activity.ofExcept x) := by
  cases x with
  | ok a => exact readsOn_pure a
  | error cause => exact readsOn_fail _

theorem readsOn_readClock : ReadsOn clock (Activity.readClock clock) :=
  fun _ _ => ⟨1, rfl, rfl⟩

theorem ReadsOn.recover {x : Activity Unit} {handle : Failure → Activity Unit}
    (h : ReadsOn clock x) (hh : ∀ cause, ReadsOn clock (handle cause)) :
    ReadsOn clock (x.recover handle) := by
  refine h.attempt.bind fun result => ?_
  match result with
  | .ok () => exact readsOn_pure ()
  | .error cause =>
      dsimp only
      split
      · exact hh cause
      · exact readsOn_fail cause

end Closure

/-! ## An observed exchange -/

section Observed

variable (o : Observer) (i : Nat)

theorem readsOn_reportFor {clock : Clock} (message : String) (cause : Failure) :
    ReadsOn clock (Observer.reportFor message cause) :=
  readsOn_live.bind fun _ => readsOn_leave rfl

theorem readsOn_tell {clock : Clock} {e : Event} (he : readings [e] = [])
    (answer : Option Failure) (message : Message) :
    ReadsOn clock
      ((do Activity.leave e; Observer.raise answer).recover (Observer.report message)) := by
  refine ((readsOn_leave he).bind fun _ => ?_).recover fun _ => readsOn_leave rfl
  cases answer with
  | none => exact readsOn_pure ()
  | some cause => exact readsOn_fail cause

theorem readsOn_notify (tokens : Named String) : ReadsOn o.clock (o.notify i tokens) := by
  unfold Observer.notify
  split
  · exact readsOn_pure ()
  · exact readsOn_tell (e := .notified tokens) rfl _ _

theorem readsOn_logAll {clock : Clock} (records : List Record) :
    ReadsOn clock (records.forM fun record => Activity.leave (.logged record)) := by
  induction records with
  | nil => exact readsOn_pure ()
  | cons record rest ih => exact (readsOn_leave (e := .logged record) rfl).bind fun _ => ih

theorem readsOn_emit (emission : Emission) (c : Capture Emission) :
    ReadsOn o.clock (o.emit i emission c) := by
  have hrender : ReadsOn o.clock (o.render emission c) :=
    readsOn_live.bind fun _ => (readsOn_ofExcept _).bind fun _ =>
      readsOn_readClock.bind fun _ => (readsOn_logAll _).bind fun _ => readsOn_ofExcept _
  refine readsOn_live.bind fun _ => (readsOn_leave rfl).bind fun _ =>
    hrender.attempt.bind fun result => ?_
  match result with
  | .ok rendering =>
      refine (readsOn_notify o i _).bind fun _ => ?_
      exact readsOn_tell (e := .wrote (rendering.line ++ "\n")) rfl _ _
  | .error cause =>
      dsimp only
      split
      · exact readsOn_reportFor _ _
      · exact readsOn_fail cause

theorem readsOn_finish : ReadsOn o.clock (o.finish i) := by
  refine readsOn_live.bind fun l => ?_
  match l.capture with
  | none => exact readsOn_pure ()
  | some c =>
      dsimp only
      split
      · exact readsOn_pure ()
      · refine (readsOn_change _).bind fun _ => ?_
        match c.handler with
        | none => exact readsOn_leave rfl
        | some emission => exact readsOn_emit o i emission c.finish

theorem readsOn_mark (message : Table) : ReadsOn o.clock (o.mark message) := by
  refine readsOn_live.bind fun l => ?_
  match l.capture with
  | none => exact readsOn_pure ()
  | some c =>
      dsimp only
      split
      · exact readsOn_pure ()
      · exact readsOn_readClock.bind fun _ => (readsOn_ofExcept _).bind fun _ => readsOn_change _

theorem readsOn_hostSend {clock : Clock} (failing : List Nat) (message : Table) :
    ReadsOn clock (hostSend failing message) := by
  refine readsOn_live.bind fun l => (readsOn_change _).bind fun _ => ?_
  split
  · exact (readsOn_leave rfl).bind fun _ => readsOn_fail _
  · exact readsOn_leave rfl

theorem readsOn_forward (failing : List Nat) (message : Table) :
    ReadsOn o.clock (o.forward i failing message) := by
  rw [Observer.forward_eq]
  refine (readsOn_ofExcept _).bind fun _ => ReadsOn.bind ?_ fun _ =>
    (readsOn_hostSend failing message).bind fun _ => ?_
  · unfold Observer.beforeSend
    split
    · exact (readsOn_mark o message).recover fun _ => readsOn_reportFor _ _
    · exact readsOn_pure ()
  · unfold Observer.afterSend
    split
    · exact readsOn_finish o i
    · exact readsOn_pure ()

theorem readsOn_sendOf (failing : List Nat) (message : Table) :
    ReadsOn o.clock (sendOf (some o) i failing message) := by
  refine readsOn_live.bind fun l => ?_
  match l.capture with
  | none => exact readsOn_hostSend failing message
  | some _ => exact readsOn_forward o i failing message

theorem readsOn_beginCapture : ReadsOn o.clock o.beginCapture := by
  refine readsOn_live.bind fun l => (readsOn_ofExcept _).bind fun passed => ?_
  split
  · exact readsOn_pure ()
  · exact readsOn_readClock.bind fun _ => (readsOn_ofExcept _).bind fun _ => readsOn_change _

end Observed

section Application

variable {clock : Clock} {send : Send}

theorem readsOn_act (h : ∀ message, ReadsOn clock (send message)) (act : Act) :
    ReadsOn clock (act.perform send) := by
  cases act with
  | send message => exact (readsOn_leave rfl).bind fun _ => h message
  | receive => exact readsOn_leave rfl
  | pause => exact readsOn_pure ()
  | assign path v =>
      exact readsOn_live.bind fun _ => (readsOn_ofExcept _).bind fun _ =>
        (readsOn_change _).bind fun _ => readsOn_leave rfl
  | remove key =>
      simp only [Act.perform]
      split
      · exact readsOn_live.bind fun _ => (readsOn_change _).bind fun _ => readsOn_leave rfl
      · exact readsOn_fail _
  | fail cause => exact readsOn_fail cause

theorem readsOn_advance (h : ∀ message, ReadsOn clock (send message)) :
    ∀ steps : List AppStep, ReadsOn clock (advance send steps)
  | [] => readsOn_pure _
  | step :: rest => by
      rw [advance]
      split
      · exact readsOn_pure _
      · refine ReadsOn.bind ?_ fun _ => readsOn_advance h rest
        unfold AppStep.perform
        split
        · exact (readsOn_act h step.act).recover fun _ => readsOn_leave rfl
        · exact readsOn_act h step.act

end Application

/-! ## Turns and runs -/

section Runs

variable (o : Observer) (i : Nat) (failing : List Nat)

theorem readsOn_proceed (steps : List AppStep) :
    ReadsOn o.clock (proceed (some o) i failing steps) := by
  refine (readsOn_advance (readsOn_sendOf o i failing) steps).attempt.bind fun result => ?_
  match result with
  | .ok (.paused rest) => exact readsOn_pure _
  | .ok .returned => exact (readsOn_finish o i).bind fun _ => readsOn_pure _
  | .error cause => exact (readsOn_finish o i).bind fun _ => readsOn_fail cause

theorem readsOn_begin (steps : List AppStep) :
    ReadsOn o.clock (begin (some o) i failing steps) := by
  rw [begin_eq]
  exact (readsOn_beginCapture o).bind fun _ => readsOn_live.bind fun _ =>
    (readsOn_leave rfl).bind fun _ => readsOn_proceed o i failing steps

theorem readsOn_turn? {c : Course} {command : Command} {x : Activity Progress}
    (hx : c.turn? (some o) i command = some x) : ReadsOn o.clock x := by
  cases Course.takes_of_turn? hx with
  | begins steps => exact readsOn_begin o i c.failing steps
  | calledOff => exact readsOn_fail .cancelled
  | proceeds rest => exact readsOn_proceed o i c.failing rest
  | interrupted => exact (readsOn_finish o i).bind fun _ => readsOn_fail .cancelled

theorem readings_take (c : Course) (reads : Nat) (command : Command) :
    ∃ n, (c.take (some o) i reads command).reads = reads + n ∧
      readings (c.take (some o) i reads command).events = o.clock.answers (List.range' reads n) := by
  cases hx : c.turn? (some o) i command with
  | none =>
      rw [Course.take_of_none hx]
      exact ⟨0, rfl, rfl⟩
  | some x =>
      obtain ⟨n, hreads, hevents⟩ := readsOn_turn? o i hx reads c.live
      have hend : ∀ result, readings [Progress.event result] = [] := by
        rintro (cause | _ | _) <;> rfl
      rw [Course.take_of_some hx]
      exact ⟨n, hreads, by rw [readings_append, hend, List.append_nil, hevents]⟩

theorem State.readings_run (signals : List Signal) :
    ∀ s : State, ∃ ns : List Nat, ns.Pairwise (· < ·) ∧ (∀ n ∈ ns, s.reads ≤ n) ∧
      readings (own i (s.run (some o) signals)) = o.clock.answers ns := by
  induction signals with
  | nil => exact fun _ => ⟨[], .nil, by simp, rfl⟩
  | cons signal rest ih =>
      intro s
      simp only [run, own_append, readings_append]
      cases hc : s.courses[signal.index]? with
      | none =>
          rw [step_of_none hc]
          exact ih s
      | some c =>
          -- The turn takes the next `k` reads, and the rest of the run reads on from there.
          obtain ⟨k, hreads, hevents⟩ := readings_take o signal.index c s.reads signal.command
          obtain ⟨ns, hlt, hfrom, hrest⟩ := ih (s.step (some o) signal).2
          have hstep : (s.step (some o) signal).2.reads = s.reads + k := by
            rw [step_of_eq hc]
            exact hreads
          rw [hstep] at hfrom
          have hfrom' : ∀ n ∈ ns, s.reads ≤ n := fun n hn => by
            have hn := hfrom n hn
            omega
          by_cases hi : signal.index = i
          · subst hi
            rw [(own_step_self (some o) hc).1, hevents, hrest, ← Clock.answers_append]
            refine ⟨List.range' s.reads k ++ ns, ?_, ?_, rfl⟩
            · refine List.pairwise_append.mpr ⟨List.pairwise_lt_range', hlt, fun m hm n hn => ?_⟩
              have hm := (List.mem_range'_1.mp hm).2
              have hn := hfrom n hn
              omega
            · intro n hn
              rcases List.mem_append.mp hn with hn | hn
              · exact (List.mem_range'_1.mp hn).1
              · exact hfrom' n hn
          · rw [(own_step_of_ne (some o) s hi).1, hrest]
            exact ⟨ns, hlt, hfrom', rfl⟩

/-- Whatever other exchanges read in between, the readings of an exchange ascend. -/
theorem ascending_readings_own (hclock : o.clock.IsSteady) (courses : List Course)
    (schedule : List Signal) :
    Ascending (readings (own i (trace (some o) courses schedule))) := by
  obtain ⟨ns, hlt, -, hreadings⟩ :=
    State.readings_run o i (schedule ++ completion courses) ⟨0, courses⟩
  rw [trace, hreadings]
  exact hclock.ascending_answers hlt

end Runs

end Gateway

end AccessLog
