import AccessLog.Proofs.Turns

/-!
# Exchanges do not share state

Many exchanges share one observer, with its template, its blacklist, its clock,
its callback and its sink. What one of them does depends on the others only
through the readings of the clock: run alone, with its own commands in their
order and on a clock that repeats the readings that it got, it does exactly the
same again (`trace_alone_eq_map_own`).

The proof replays activities. `Retraces` says that an activity does again what
another one did, once its clock repeats the readings that the other one left
among its events (`Clock.Repeats`). This passes through `>>=`, so it is enough
that each part of the observer retraces itself; only a read of the clock has
anything to show.
-/

namespace AccessLog

namespace Clock

/-- The clock repeats these readings, from its `n`th on. -/
def Repeats (clock : Clock) (n : Nat) (rs : List Reading) : Prop :=
  ∀ (k : Nat) (r : Reading), rs[k]? = some r → clock (n + k) = r

theorem Repeats.left {clock : Clock} {n : Nat} {rs more : List Reading}
    (h : clock.Repeats n (rs ++ more)) : clock.Repeats n rs := by
  intro k r hk
  have hlt := (List.getElem?_eq_some_iff.mp hk).1
  exact h k r (by rw [List.getElem?_append_left hlt, hk])

theorem Repeats.right {clock : Clock} {n : Nat} {rs more : List Reading}
    (h : clock.Repeats n (rs ++ more)) : clock.Repeats (n + rs.length) more := by
  intro k r hk
  rw [Nat.add_assoc]
  exact h _ r (by rw [List.getElem?_append_right (by omega), Nat.add_sub_cancel_left, hk])

theorem repeats_ofReadings (rs : List Reading) : (ofReadings rs).Repeats 0 rs := by
  intro k r hk
  rw [Nat.zero_add, ofReadings, hk]

end Clock

namespace Gateway

/-- The readings of the clock among events, in order. -/
def readings : List Event → List Reading
  | [] => []
  | .clock r :: rest => r :: readings rest
  | _ :: rest => readings rest

theorem readings_append (events more : List Event) :
    readings (events ++ more) = readings events ++ readings more := by
  induction events with
  | nil => rfl
  | cons e rest ih => cases e <;> simp [readings, ih]

/-! ## Doing the same again -/

/-- The outcome, reached with this number of reads. -/
def Outcome.replayed {α : Type} (p : Outcome α) (reads : Nat) : Outcome α :=
  { p with reads := reads + (readings p.events).length }

/-- The activity `y` does what `x` did, once the clock repeats what `x` read. -/
def Retraces {α : Type} (clock : Clock) (x y : Activity α) : Prop :=
  ∀ reads reads' l, clock.Repeats reads' (readings (x reads l).events) →
    y reads' l = (x reads l).replayed reads'

section Closure

variable {α β : Type} {clock : Clock}

theorem Retraces.bind {x y : Activity α} {f g : α → Activity β} (h : Retraces clock x y)
    (hf : ∀ a, Retraces clock (f a) (g a)) : Retraces clock (x >>= f) (y >>= g) := by
  intro reads reads' l hclock
  cases hx : (x reads l).result with
  | error cause =>
      rw [Activity.bind_apply_of_error hx] at hclock ⊢
      have hy := h reads reads' l hclock
      rw [Activity.bind_apply_of_error (by rw [hy]; exact hx), hy]
      rfl
  | ok a =>
      rw [Activity.bind_apply_of_ok hx] at hclock ⊢
      rw [readings_append] at hclock
      have hy := h reads reads' l hclock.left
      have hrest := hf a (x reads l).reads _ (x reads l).live hclock.right
      rw [Activity.bind_apply_of_ok (a := a) (by rw [hy]; exact hx), hy]
      simp only [Outcome.replayed] at hrest ⊢
      rw [hrest]
      simp [readings_append, Nat.add_assoc]

theorem Retraces.attempt {x y : Activity α} (h : Retraces clock x y) :
    Retraces clock x.attempt y.attempt := by
  intro reads reads' l hclock
  simp only [Activity.attempt, h reads reads' l hclock]
  rfl

/-- What never reads the clock retraces itself. -/
theorem retraces_pure (a : α) : Retraces clock (pure a) (pure a) := fun _ _ _ _ => rfl

theorem retraces_fail (cause : Failure) :
    Retraces clock (Activity.fail cause : Activity α) (Activity.fail cause) :=
  fun _ _ _ _ => rfl

theorem retraces_live : Retraces clock Activity.live Activity.live := fun _ _ _ _ => rfl

theorem retraces_change (f : Live → Live) :
    Retraces clock (Activity.change f) (Activity.change f) := fun _ _ _ _ => rfl

theorem retraces_leave {e : Event} (he : readings [e] = []) :
    Retraces clock (Activity.leave e) (Activity.leave e) := by
  intro reads reads' l _
  simp [Outcome.replayed, he]

theorem retraces_ofExcept (x : Except Fault α) :
    Retraces clock (Activity.ofExcept x) (Activity.ofExcept x) := by
  cases x with
  | ok a => exact retraces_pure a
  | error cause => exact retraces_fail _

theorem Retraces.recover {x y : Activity Unit} {handle : Failure → Activity Unit}
    (h : Retraces clock x y) (hh : ∀ cause, Retraces clock (handle cause) (handle cause)) :
    Retraces clock (x.recover handle) (y.recover handle) := by
  refine h.attempt.bind fun result => ?_
  match result with
  | .ok () => exact retraces_pure ()
  | .error cause =>
      dsimp only
      split
      · exact hh cause
      · exact retraces_fail cause

/-- A read of the clock gets the reading that is repeated. -/
theorem retraces_readClock (shared : Clock) :
    Retraces clock (Activity.readClock shared) (Activity.readClock clock) := by
  intro reads reads' l hclock
  have hreading : clock reads' = shared reads := hclock 0 _ rfl
  simp only [Activity.readClock, hreading]
  rfl

end Closure

/-! ## The observer of one exchange -/

/-- The observer as exchange `i` gets to see it, on a clock of its own. -/
def Observer.alone (o : Observer) (i : Nat) (clock : Clock) : Observer :=
  { o with clock, callback := o.callback.map fun f _ => f i, sink := fun _ => o.sink i }

section Retracing

variable (o : Observer) (i : Nat) {clock : Clock}

theorem retraces_reportFor (message : String) (cause : Failure) :
    Retraces clock (Observer.reportFor message cause) (Observer.reportFor message cause) :=
  retraces_live.bind fun _ => retraces_leave rfl

/-- A participant's answer is the same again. -/
theorem retraces_tell {e : Event} (he : readings [e] = []) (answer : Option Failure)
    (message : Message) :
    Retraces clock
      ((do Activity.leave e; Observer.raise answer).recover (Observer.report message))
      ((do Activity.leave e; Observer.raise answer).recover (Observer.report message)) := by
  refine ((retraces_leave he).bind fun _ => ?_).recover fun cause => retraces_leave rfl
  cases answer with
  | none => exact retraces_pure ()
  | some cause => exact retraces_fail cause

theorem retraces_notify (tokens : Named String) :
    Retraces clock (o.notify i tokens) ((o.alone i clock).notify 0 tokens) := by
  cases hc : o.callback with
  | none =>
      simp only [Observer.notify, Observer.alone, hc, Option.map_none]
      exact retraces_pure ()
  | some callback =>
      simp only [Observer.notify, Observer.alone, hc, Option.map_some]
      exact retraces_tell (e := .notified tokens) rfl _ _

theorem retraces_logAll (records : List Record) :
    Retraces clock (records.forM fun record => Activity.leave (.logged record))
      (records.forM fun record => Activity.leave (.logged record)) := by
  induction records with
  | nil => exact retraces_pure ()
  | cons record rest ih =>
      exact (retraces_leave (e := .logged record) rfl).bind fun _ => ih

theorem retraces_render (emission : Emission) (c : Capture Emission) :
    Retraces clock (o.render emission c) ((o.alone i clock).render emission c) :=
  retraces_live.bind fun _ => (retraces_ofExcept _).bind fun _ =>
    (retraces_readClock o.clock).bind fun _ => (retraces_logAll _).bind fun _ =>
      retraces_ofExcept _

theorem retraces_emit (emission : Emission) (c : Capture Emission) :
    Retraces clock (o.emit i emission c) ((o.alone i clock).emit 0 emission c) := by
  refine retraces_live.bind fun _ => (retraces_leave rfl).bind fun _ =>
    (retraces_render o i emission c).attempt.bind fun result => ?_
  match result with
  | .ok rendering =>
      refine (retraces_notify o i _).bind fun _ => ?_
      exact retraces_tell (e := .wrote (rendering.line ++ "\n")) rfl _ _
  | .error cause =>
      dsimp only
      split
      · exact retraces_reportFor _ _
      · exact retraces_fail cause

theorem retraces_finish : Retraces clock (o.finish i) ((o.alone i clock).finish 0) := by
  refine retraces_live.bind fun l => ?_
  match l.capture with
  | none => exact retraces_pure ()
  | some c =>
      dsimp only
      split
      · exact retraces_pure ()
      · refine (retraces_change _).bind fun _ => ?_
        match c.handler with
        | none => exact retraces_leave rfl
        | some emission => exact retraces_emit o i emission c.finish

theorem retraces_mark (message : Table) :
    Retraces clock (o.mark message) ((o.alone i clock).mark message) := by
  refine retraces_live.bind fun l => ?_
  match l.capture with
  | none => exact retraces_pure ()
  | some c =>
      dsimp only
      split
      · exact retraces_pure ()
      · exact (retraces_readClock o.clock).bind fun _ => (retraces_ofExcept _).bind fun _ =>
          retraces_change _

theorem retraces_hostSend (failing : List Nat) (message : Table) :
    Retraces clock (hostSend failing message) (hostSend failing message) := by
  refine retraces_live.bind fun l => (retraces_change _).bind fun _ => ?_
  split
  · exact (retraces_leave rfl).bind fun _ => retraces_fail _
  · exact retraces_leave rfl

theorem retraces_forward (failing : List Nat) (message : Table) :
    Retraces clock (o.forward i failing message) ((o.alone i clock).forward 0 failing message) := by
  rw [Observer.forward_eq, Observer.forward_eq]
  refine (retraces_ofExcept _).bind fun _ => Retraces.bind ?_ fun _ =>
    (retraces_hostSend failing message).bind fun _ => ?_
  · unfold Observer.beforeSend
    split
    · exact (retraces_mark o i message).recover fun _ => retraces_reportFor _ _
    · exact retraces_pure ()
  · unfold Observer.afterSend
    split
    · exact retraces_finish o i
    · exact retraces_pure ()

theorem retraces_beginCapture :
    Retraces clock o.beginCapture (o.alone i clock).beginCapture := by
  refine retraces_live.bind fun l => (retraces_ofExcept _).bind fun passed => ?_
  split
  · exact retraces_pure ()
  · exact (retraces_readClock o.clock).bind fun _ => (retraces_ofExcept _).bind fun _ =>
      retraces_change _

variable (failing : List Nat)

theorem retraces_sendOf (message : Table) :
    Retraces clock (sendOf (some o) i failing message)
      (sendOf (some (o.alone i clock)) 0 failing message) := by
  refine retraces_live.bind fun l => ?_
  match l.capture with
  | none => exact retraces_hostSend failing message
  | some _ => exact retraces_forward o i failing message

theorem retraces_act {send send' : Send}
    (h : ∀ message, Retraces clock (send message) (send' message)) (act : Act) :
    Retraces clock (act.perform send) (act.perform send') := by
  cases act with
  | send message => exact (retraces_leave rfl).bind fun _ => h message
  | receive => exact retraces_leave rfl
  | pause => exact retraces_pure ()
  | assign path v =>
      exact retraces_live.bind fun _ => (retraces_ofExcept _).bind fun _ =>
        (retraces_change _).bind fun _ => retraces_leave rfl
  | remove key =>
      simp only [Act.perform]
      split
      · exact retraces_live.bind fun _ => (retraces_change _).bind fun _ => retraces_leave rfl
      · exact retraces_fail _
  | fail cause => exact retraces_fail cause

theorem retraces_advance {send send' : Send}
    (h : ∀ message, Retraces clock (send message) (send' message)) :
    ∀ steps : List AppStep, Retraces clock (advance send steps) (advance send' steps)
  | [] => retraces_pure _
  | step :: rest => by
      rw [advance, advance]
      split
      · exact retraces_pure _
      · refine Retraces.bind ?_ fun _ => retraces_advance h rest
        unfold AppStep.perform
        split
        · exact (retraces_act h step.act).recover fun _ => retraces_leave rfl
        · exact retraces_act h step.act

theorem retraces_proceed (steps : List AppStep) :
    Retraces clock (proceed (some o) i failing steps)
      (proceed (some (o.alone i clock)) 0 failing steps) := by
  refine (retraces_advance (retraces_sendOf o i failing) steps).attempt.bind fun result => ?_
  match result with
  | .ok (.paused rest) => exact retraces_pure _
  | .ok .returned => exact (retraces_finish o i).bind fun _ => retraces_pure _
  | .error cause => exact (retraces_finish o i).bind fun _ => retraces_fail cause

theorem retraces_begin (steps : List AppStep) :
    Retraces clock (begin (some o) i failing steps)
      (begin (some (o.alone i clock)) 0 failing steps) := by
  rw [begin_eq, begin_eq]
  exact (retraces_beginCapture o i).bind fun _ => retraces_live.bind fun _ =>
    (retraces_leave rfl).bind fun _ => retraces_proceed o i failing steps

end Retracing

/-! ## Runs -/

/-- A turn goes the same way again. -/
theorem take_alone (o : Observer) (i : Nat) {clock : Clock} (c : Course) (command : Command)
    (reads reads' : Nat)
    (hclock : clock.Repeats reads' (readings (c.take (some o) i reads command).events)) :
    c.take (some (o.alone i clock)) 0 reads' command =
      { c.take (some o) i reads command with
        reads := reads' + (readings (c.take (some o) i reads command).events).length } := by
  have hturn : ∀ {x y : Activity Progress}, c.turn? (some o) i command = some x →
      c.turn? (some (o.alone i clock)) 0 command = some y → Retraces clock x y →
      c.take (some (o.alone i clock)) 0 reads' command =
        { c.take (some o) i reads command with
          reads := reads' + (readings (c.take (some o) i reads command).events).length } := by
    intro x y hx hy h
    have hend : ∀ result, readings [Progress.event result] = [] := fun result => by
      match result with
      | .ok (.paused _) => rfl
      | .ok .returned => rfl
      | .error _ => rfl
    rw [Course.take_of_some hx] at hclock ⊢
    rw [readings_append, hend, List.append_nil] at hclock
    rw [Course.take_of_some hy, h reads reads' c.live hclock]
    simp [Outcome.replayed, readings_append, hend, Course.afterTurn]
  cases hphase : c.phase with
  | ended =>
      rw [Course.take_of_none (Course.turn?_of_ended hphase command),
        Course.take_of_none (Course.turn?_of_ended hphase command)]
      rfl
  | waiting steps =>
      have hx := Course.turn?_of_waiting (some o) i hphase
      have hy := Course.turn?_of_waiting (some (o.alone i clock)) 0 hphase
      cases command with
      | resume => exact hturn hx.1 hy.1 (retraces_begin o i c.failing steps)
      | cancel => exact hturn hx.2 hy.2 (retraces_fail _)
  | paused rest =>
      have hx := Course.turn?_of_paused (some o) i hphase
      have hy := Course.turn?_of_paused (some (o.alone i clock)) 0 hphase
      cases command with
      | resume => exact hturn hx.1 hy.1 (retraces_proceed o i c.failing rest)
      | cancel =>
          exact hturn hx.2 hy.2 ((retraces_finish o i).bind fun _ => retraces_fail .cancelled)

/-- The signals by which one exchange alone is given commands. -/
def signalsAlone (commands : List Command) : List Signal := commands.map fun c => ⟨0, c⟩

/-- What an exchange does among others, it does alone, on a clock that repeats
what it read. -/
theorem State.run_alone (o : Observer) (i : Nat) {clock : Clock} (signals : List Signal) :
    ∀ (s : State) {c : Course} (reads : Nat), s.courses[i]? = some c →
      clock.Repeats reads (readings (own i (s.run (some o) signals))) →
      State.run (some (o.alone i clock)) ⟨reads, [c]⟩ (signalsAlone (commandsFor i signals)) =
        (own i (s.run (some o) signals)).map (0, ·) := by
  induction signals with
  | nil => intro s c reads _ _; rfl
  | cons signal rest ih =>
      intro s c reads hc hclock
      simp only [run, own_append] at hclock ⊢
      by_cases hi : signal.index = i
      · subst hi
        obtain ⟨hown, hcourse⟩ := own_step_self (some o) hc
        rw [hown, readings_append] at hclock
        rw [hown, List.map_append, ← ih _ _ hcourse hclock.right]
        have hcommands : signalsAlone (commandsFor signal.index (signal :: rest)) =
            ⟨0, signal.command⟩ :: signalsAlone (commandsFor signal.index rest) := by
          simp [signalsAlone, commandsFor]
        have htake := take_alone o signal.index c signal.command s.reads reads hclock.left
        have hstep : State.step (some (o.alone signal.index clock)) ⟨reads, [c]⟩
            ⟨0, signal.command⟩ = _ := step_of_eq rfl
        simp only [hcommands, run, hstep, htake]
        rfl
      · obtain ⟨hown, hcourse⟩ := own_step_of_ne (some o) s hi
        rw [hown, List.nil_append] at hclock ⊢
        have hcommands : commandsFor i (signal :: rest) = commandsFor i rest := by
          simp [commandsFor, hi]
        rw [hcommands]
        exact ih _ _ (hcourse.trans hc) hclock

/-- **Isolation.** Whatever the other exchanges do, and however they are
interleaved with it, the events of exchange `i` are those of the exchange run
alone with its own commands in their order, on any clock that repeats the
readings that it got. -/
theorem trace_alone_eq_map_own (o : Observer) {courses : List Course} {i : Nat} {c : Course}
    (hc : courses[i]? = some c) (schedule : List Signal) {clock : Clock}
    (hclock : clock.Repeats 0 (readings (own i (trace (some o) courses schedule)))) :
    trace (some (o.alone i clock)) [c] (signalsAlone (commandsFor i schedule)) =
      (own i (trace (some o) courses schedule)).map (0, ·) := by
  have hcompletion : signalsAlone (commandsFor i (completion courses)) = completion [c] := by
    rw [commandsFor_completion hc, signalsAlone, List.map_replicate]
    simp [completion]
  have hsignals : signalsAlone (commandsFor i (schedule ++ completion courses)) =
      signalsAlone (commandsFor i schedule) ++ completion [c] := by
    rw [commandsFor_append, ← hcompletion]
    simp [signalsAlone]
  rw [trace, ← hsignals]
  exact State.run_alone o i _ ⟨0, courses⟩ 0 hc hclock

/-- Two exchanges that overlap. -/
def overlappingCourses : List Course :=
  [.ofScript sampleScope [⟨.pause, false⟩, ⟨.send (sampleStart 200), false⟩,
      ⟨.send sampleBody, false⟩] [],
    .ofScript sampleScope [⟨.send (sampleStart 404), false⟩, ⟨.pause, false⟩,
      ⟨.send sampleBody, false⟩] []]

/-- In which the first one begins and ends while the second one is under way. -/
def overlappingSchedule : List Signal := [⟨1, .resume⟩, ⟨0, .resume⟩, ⟨0, .resume⟩, ⟨1, .resume⟩]

/-- An observer whose clock shows the number of its reads. -/
def Observer.counting : Observer where
  template := Template.parse ":status :total-time"
  blacklist := []
  clock n := .tick (.int n)
  callback := none
  sink _ _ := none

theorem trace_alone_counting_eq :
    (Clock.ofReadings [.tick (.int 0), .tick (.int 1), .tick (.int 5)]).Repeats 0
        (readings (own 1 (trace (some .counting) overlappingCourses overlappingSchedule))) ∧
      trace (some (Observer.counting.alone 1
          (Clock.ofReadings [.tick (.int 0), .tick (.int 1), .tick (.int 5)])))
          [.ofScript sampleScope [⟨.send (sampleStart 404), false⟩, ⟨.pause, false⟩,
            ⟨.send sampleBody, false⟩] []] [⟨0, .resume⟩, ⟨0, .resume⟩] =
        (own 1 (trace (some .counting) overlappingCourses overlappingSchedule)).map (0, ·) := by
  have hreadings : readings (own 1 (trace (some .counting) overlappingCourses
      overlappingSchedule)) = [.tick (.int 0), .tick (.int 1), .tick (.int 5)] := by decide +kernel
  have hclock : (Clock.ofReadings [.tick (.int 0), .tick (.int 1), .tick (.int 5)]).Repeats 0
      (readings (own 1 (trace (some .counting) overlappingCourses overlappingSchedule))) := by
    rw [hreadings]
    exact Clock.repeats_ofReadings _
  exact ⟨hclock, trace_alone_eq_map_own .counting rfl overlappingSchedule hclock⟩

end Gateway

end AccessLog
