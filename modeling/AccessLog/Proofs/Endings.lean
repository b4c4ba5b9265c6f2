import AccessLog.Proofs.Stages
import AccessLog.Proofs.Transparency

/-!
# How an observed exchange ends

An observed exchange ends as its application does when it runs on its own
(`Course.runAlone`), whatever fails in the observer after the entry: the clock, when it is
read for a start or for a line, the callback or the sink. This is stated for every script,
also for one whose messages do not name their type and are refused for it.

The entry is the exception. The clock is read there before the application is entered, and
nothing deals with a failure of it, so the exchange ends with the failure of the clock and
without its application (`ends_alone_or_fails_on_entry`, `fails_on_entry_of_stopped`).
-/

namespace AccessLog.Gateway

/-! ## An application on its own -/

/-- How the host takes messages when each of them has to name its type. -/
def typedSend (failing : List Nat) : Send := fun message => do
  let _ ← Activity.ofExcept (message.demand "type")
  hostSend failing message

/-- Enters an application on its own. -/
def enterAlone (failing : List Nat) (steps : List AppStep) : Activity Progress := do
  Activity.leave (.entered ((← Activity.live).scope.get "type"))
  advance (typedSend failing) steps

namespace Course

/-- The turn that an application takes on its own; `none` when it has ended. -/
def turnAlone? (c : Course) : Command → Option (Activity Progress)
  | .resume =>
    match c.phase with
    | .waiting steps => some (enterAlone c.failing steps)
    | .paused rest => some (advance (typedSend c.failing) rest)
    | .ended => none
  | .cancel =>
    match c.phase with
    | .waiting _ => some (Activity.fail .cancelled)
    | .paused _ => some (Activity.fail .cancelled)
    | .ended => none

/-- Takes a turn on its own: the events, and the course afterwards. -/
def takeAlone (c : Course) (command : Command) : List Event × Course :=
  match c.turnAlone? command with
  | none => ([], c)
  | some x =>
    let p := x 0 c.live
    (p.events ++ [Progress.event p.result], c.afterTurn p)

/-- Takes turns on its own, one after the other. -/
def runAlone (c : Course) (commands : List Command) : List Event × Course :=
  commands.foldl (fun (events, c) command =>
    (events ++ (c.takeAlone command).1, (c.takeAlone command).2)) ([], c)

theorem runAlone_append (c : Course) (commands : List Command) (command : Command) :
    c.runAlone (commands ++ [command]) =
      ((c.runAlone commands).1 ++ ((c.runAlone commands).2.takeAlone command).1,
        ((c.runAlone commands).2.takeAlone command).2) := by
  simp [runAlone, List.foldl_append]

theorem turnAlone?_of_paused {c : Course} {rest : List AppStep} (h : c.phase = .paused rest) :
    c.turnAlone? .resume = some (advance (typedSend c.failing) rest) ∧
      c.turnAlone? .cancel = some (Activity.fail .cancelled) := by
  simp only [turnAlone?, h, and_self]

theorem takeAlone_of_some {c : Course} {command : Command} {x : Activity Progress}
    (h : c.turnAlone? command = some x) :
    c.takeAlone command =
      ((x 0 c.live).events ++ [Progress.event (x 0 c.live).result], c.afterTurn (x 0 c.live)) := by
  simp only [takeAlone, h]

theorem takeAlone_of_ended {c : Course} (h : c.phase = .ended) (command : Command) :
    c.takeAlone command = ([], c) := by
  cases command <;> simp only [takeAlone, turnAlone?, h]

end Course

/-! ## Turns -/

namespace Activity

variable {α β : Type}

theorem attempt_bind_self (x : Activity α) :
    (x.attempt >>= fun result => match result with
      | .ok a => pure a
      | .error cause => fail cause) = x := by
  funext reads l
  rw [attempt_bind_apply]
  cases hr : (x reads l).result with
  | ok a => simp [pure_apply, ← hr]
  | error cause => simp [← hr]

/-- What comes after an activity depends on its outcome only. -/
theorem bind_congr {x y : Activity α} {f g : α → Activity β} {reads : Nat} {l : Live}
    (h : x reads l = y reads l)
    (hf : ∀ a, f a (x reads l).reads (x reads l).live = g a (x reads l).reads (x reads l).live) :
    (x >>= f) reads l = (y >>= g) reads l := by
  cases hr : (x reads l).result with
  | error cause => rw [bind_apply_of_error hr, bind_apply_of_error (h ▸ hr), h]
  | ok a => rw [bind_apply_of_ok hr, bind_apply_of_ok (h ▸ hr), hf, h]

theorem attempt_congr {x y : Activity α} {reads : Nat} {l : Live} (h : x reads l = y reads l) :
    x.attempt reads l = y.attempt reads l := by
  simp only [attempt, h]

end Activity

section Congruence

variable {P : Assertion} {send send' : Send}

theorem AppStep.perform_congr {reads : Nat} {l : Live}
    (h : ∀ message, send message reads l = send' message reads l) (step : AppStep) :
    step.perform send reads l = step.perform send' reads l := by
  have hact : step.act.perform send reads l = step.act.perform send' reads l := by
    cases step.act with
    | send message =>
        show (Activity.leave _ >>= fun _ => send message) reads l =
          (Activity.leave _ >>= fun _ => send' message) reads l
        rw [Activity.leave_bind_apply, Activity.leave_bind_apply, h]
    | _ => rfl
  unfold AppStep.perform
  split
  · rw [Activity.recover_apply, Activity.recover_apply, hact]
  · exact hact

/-- Two ways to send come to the same for an application, when they do wherever one of
them may take it. -/
theorem advance_congr (hkept : Kept P send)
    (h : ∀ {events l}, P events l → ∀ message reads, send message reads l = send' message reads l) :
    ∀ (steps : List AppStep) {events : List Event} (reads : Nat) {l : Live}, P events l →
      advance send steps reads l = advance send' steps reads l
  | [], _, _, _, _ => rfl
  | step :: rest, events, reads, l, hP => by
      -- Both sides take the step alike, and the assertion holds again after it.
      rw [advance, advance]
      split
      · rfl
      · have hstep := step.perform_congr fun message => h hP message reads
        have hnext := (hkept.step step).always events reads l hP
        exact Activity.bind_congr hstep fun _ => advance_congr hkept h rest _ hnext

end Congruence

section Turns

variable {o : Observer} {i : Nat} {failing : List Nat} {scope : Table}

/-- A message is forwarded as the host takes messages that name their type. -/
theorem Observer.IsOrderly.forward_typed (ho : o.IsOrderly) (i : Nat) (failing : List Nat)
    (message : Table) : Mirrors (o.forward i failing message) (typedSend failing message) := by
  unfold typedSend
  cases hdemand : message.demand "type" with
  | error cause =>
      rw [forward_eq, hdemand]
      exact fun _ _ _ _ hl => ⟨rfl, hl, rfl⟩
  | ok type =>
      have hm : message.get? "type" = some type := by
        unfold Table.demand at hdemand
        split at hdemand
        · rename_i v hv
          cases hdemand
          exact hv
        · cases hdemand
      rw [Activity.ofExcept_ok_bind]
      exact ho.forward i failing hm

/-- An observed exchange goes on as its application does on its own. -/
theorem proceed_shadows (ho : o.IsOrderly) {x : Entry} (hx : x.observer = o ∧ x.index = i)
    {events : List Event} {l bare : Live} (h : x.Going events l) (hl : l.Shadows bare)
    (steps : List AppStep) (reads reads' : Nat) :
    (proceed (some o) i failing steps reads l).Shadows
      (advance (typedSend failing) steps reads' bare) := by
  obtain ⟨rfl, rfl⟩ := hx
  -- As long as the exchange goes on it is captured, so each message is forwarded.
  have hsend : ∀ {events l}, x.Going events l → ∀ message reads,
      sendOf (some x.observer) x.index failing message reads l =
        x.observer.forward x.index failing message reads l := by
    intro events l hgoing message reads
    obtain ⟨c, hc⟩ := hgoing.captured
    unfold sendOf
    rw [Activity.live_bind_apply]
    simp only [hc]
  have hadvance := advance_congr (x.kept_going failing) hsend steps reads h
  have hproceed : proceed (some x.observer) x.index failing steps reads l = _ :=
    Activity.bind_congr (Activity.attempt_congr hadvance) fun _ => rfl
  rw [hproceed, ← Activity.attempt_bind_self (advance (typedSend failing) steps)]
  have hmirrors : Mirrors (advance (x.observer.forward x.index failing) steps)
      (advance (typedSend failing) steps) :=
    mirrors_advance fun _ _ message _ => ho.forward_typed x.index failing message
  refine (hmirrors.attempt.bind fun result => ?_) reads reads' hl
  match result with
  | .ok (.paused rest) => exact mirrors_pure _
  | .ok .returned => exact (ho.finish x.index).skip (mirrors_pure _)
  | .error cause => exact (ho.finish x.index).skip (mirrors_fail cause)

/-- An observed exchange begins as its application does on its own, unless the clock fails
on entry. -/
theorem begin_cases (ho : o.IsOrderly) (hpassed : o.isPassedOver scope = .ok false)
    {host : KeptHost} (hhost : KeptHost.ofScope scope = .ok host) (steps : List AppStep)
    (reads reads' : Nat) :
    (∃ cause, begin (some o) i failing steps reads ⟨scope, 0, none⟩ =
        ⟨[.clock (.fails cause)], reads + 1, ⟨scope, 0, none⟩, .error cause⟩) ∨
      (∃ tick more, (begin (some o) i failing steps reads ⟨scope, 0, none⟩).events =
          .clock (.tick tick) :: .entered (scope.get "type") :: more) ∧
        (begin (some o) i failing steps reads ⟨scope, 0, none⟩).Shadows
          (enterAlone failing steps reads' ⟨scope, 0, none⟩) := by
  have hbegin := o.beginCapture_apply reads ⟨scope, 0, none⟩
  rw [hpassed, hhost] at hbegin
  rw [begin_eq, beforeEntry]
  cases hr : o.clock reads with
  | fails cause =>
      rw [hr] at hbegin
      have hfails : (o.beginCapture reads ⟨scope, 0, none⟩).result = .error cause := by rw [hbegin]
      exact Or.inl ⟨cause, by rw [Activity.bind_apply_of_error hfails, hbegin]⟩
  | tick tick =>
      rw [hr] at hbegin
      dsimp only at hbegin
      have hok : (o.beginCapture reads ⟨scope, 0, none⟩).result = .ok () := by rw [hbegin]
      obtain ⟨value, hvalue⟩ : ∃ value, clientHost scope = .ok value := by
        obtain ⟨value, hvalue, -⟩ := exists_of_bind_eq_ok hhost
        exact ⟨value, hvalue⟩
      obtain ⟨host', tick', -, hgoing, -⟩ := (going_or_unwatched_of_beginCapture o i scope
        reads).resolve_right fun h => h.1 [] value tick ⟨hpassed, hvalue, by rw [hbegin]; rfl⟩
      rw [Activity.bind_apply_of_ok hok]
      rw [hbegin] at hgoing ⊢
      have hentered := hgoing.append (Plain.singleton
        (show (Event.entered (scope.get "type")).isPlain = true from rfl)) rfl rfl
      have hshadows : Live.Shadows ⟨scope, 0, some ((Capture.start tick).arm ⟨host⟩)⟩
          ⟨scope, 0, none⟩ :=
        ⟨rfl, rfl, by rintro _ ⟨⟩; exact ⟨_, rfl⟩, rfl⟩
      have hproceed : Outcome.Shadows _ (advance (typedSend failing) steps reads' _) :=
        proceed_shadows ho ⟨rfl, rfl⟩ hentered hshadows steps (reads + 1) reads'
      refine Or.inr ⟨⟨tick, _, rfl⟩, hproceed.result, hproceed.live, ?_⟩
      exact congrArg (Event.entered (scope.get "type") :: ·) hproceed.events

end Turns

/-! ## Runs -/

/-- An observed course, beside that of its application on its own. -/
structure Course.Beside (c alone : Course) : Prop where
  failing : c.failing = alone.failing
  phase : c.phase = alone.phase
  live : c.live.Shadows alone.live

/-- The observed exchange has been begun, or cancelled before. -/
def IsBegun (scope : Table) (events : List Event) (c : Course) : Prop :=
  (∃ tick more, events = .clock (.tick tick) :: .entered (scope.get "type") :: more) ∨
    events = [.done (some .cancelled)] ∧ c.phase = .ended

/-- An observed exchange after these commands: it waits, or it has failed on entry, or it
has come as far as its application does on its own. -/
inductive Follows (o : Observer) (i : Nat) (scope : Table) (script : Course) :
    List Command → List Event → Course → Prop
  | waiting : Follows o i scope script [] [] script
  | failed {commands : List Command} {c : Course} (cause : Failure) (hphase : c.phase = .ended) :
      Follows o i scope script commands [.clock (.fails cause), .done (some cause)] c
  | alongside {commands : List Command} {events : List Event} {c : Course}
      (hbegun : IsBegun scope events c) (hstage : Stage o i scope events c)
      (hevents : outside events = (script.runAlone commands).1)
      (hbeside : c.Beside (script.runAlone commands).2) :
      Follows o i scope script commands events c

section Runs

variable {o : Observer} {i : Nat} {scope : Table} {events : List Event} {c : Course}

theorem IsBegun.append (h : IsBegun scope events c) {rest : List AppStep}
    (hphase : c.phase = .paused rest) (more : List Event) (c' : Course) :
    IsBegun scope (events ++ more) c' := by
  rcases h with ⟨tick, later, rfl⟩ | ⟨-, hended⟩
  · exact Or.inl ⟨tick, later ++ more, rfl⟩
  · cases hphase.symm.trans hended

theorem IsBegun.ne_nil (h : IsBegun scope events c) : events ≠ [] := by
  rcases h with ⟨tick, more, rfl⟩ | ⟨rfl, -⟩ <;> exact List.cons_ne_nil _ _

/-- An exchange in which something has happened does not wait. -/
theorem Stage.phase_ne_waiting (h : Stage o i scope events c) (hne : events ≠ [])
    (steps : List AppStep) : c.phase ≠ .waiting steps := by
  cases h with
  | waiting steps failing => exact absurd rfl hne
  | unobserved _ _ hphase _ => exact hphase steps
  | going _ _ _ rest hphase _ => rw [hphase]; exact Phase.noConfusion
  | ended _ _ _ hphase _ => rw [hphase]; exact Phase.noConfusion

/-- An exchange that is paused, and not passed over, is observed. -/
theorem Stage.going_of_paused (h : Stage o i scope events c) {rest : List AppStep}
    (hphase : c.phase = .paused rest) (hbegun : IsBegun scope events c)
    (hpassed : o.isPassedOver scope = .ok false) {host : Value}
    (hhost : clientHost scope = .ok host) :
    ∃ host tick, Entry.Going ⟨o, i, scope, host, tick⟩ events c.live := by
  cases h with
  | waiting steps failing => cases hphase
  | going host tick _ _ _ h => exact ⟨host, tick, h⟩
  | ended _ _ _ hended _ => cases hphase.symm.trans hended
  | unobserved _ hentry _ _ =>
      rcases hbegun with ⟨tick, more, rfl⟩ | ⟨-, hended⟩
      · exact absurd ⟨hpassed, hhost, rfl⟩ (hentry host tick)
      · cases hphase.symm.trans hended

/-- A turn that ends as that of the application on its own keeps the two together. -/
theorem Follows.next {script : Course} {commands : List Command} (hstage : Stage o i scope events c)
    (hevents : outside events = (script.runAlone commands).1)
    (hfailing : c.failing = (script.runAlone commands).2.failing) {command : Command}
    {x y : Activity Progress} (hx : c.turn? (some o) i command = some x)
    (hy : (script.runAlone commands).2.turnAlone? command = some y) (reads : Nat)
    (h : (x reads c.live).Shadows (y 0 (script.runAlone commands).2.live))
    (hbegun : IsBegun scope (events ++ (c.take (some o) i reads command).events)
      (c.take (some o) i reads command).course) :
    Follows o i scope script (commands ++ [command])
      (events ++ (c.take (some o) i reads command).events)
      (c.take (some o) i reads command).course := by
  have hnext := hstage.take reads command
  refine .alongside hbegun hnext ?_ ?_ <;>
    rw [Course.runAlone_append, Course.takeAlone_of_some hy, Course.take_of_some hx]
  · rw [outside_append, hevents, h.outside_turn]
  · exact ⟨hfailing, congrArg Progress.phase h.result, h.live⟩

/-- A turn of an observed exchange, beside that of its application on its own. -/
theorem Follows.take (ho : o.IsOrderly) (hserved : IsServed scope)
    (hpassed : o.isPassedOver scope = .ok false) {steps : List AppStep} {failing : List Nat}
    {commands : List Command}
    (h : Follows o i scope (.ofScript scope steps failing) commands events c)
    (reads : Nat) (command : Command) :
    Follows o i scope (.ofScript scope steps failing) (commands ++ [command])
      (events ++ (c.take (some o) i reads command).events)
      (c.take (some o) i reads command).course := by
  obtain ⟨kept, hkept⟩ := hserved.keptHost
  obtain ⟨host, hhost, -⟩ := exists_of_bind_eq_ok hkept
  cases h with
  | failed cause hphase =>
      rw [Course.take_of_none (Course.turn?_of_ended hphase command), List.append_nil]
      exact .failed cause hphase
  | waiting =>
      have hturn := Course.turn?_of_waiting (some o) i
        (show (Course.ofScript scope steps failing).phase = .waiting steps from rfl)
      have hlive : Live.Shadows ⟨scope, 0, none⟩ ⟨scope, 0, none⟩ := ⟨rfl, rfl, nofun, rfl⟩
      cases command with
      | cancel =>
          refine .next (.waiting steps failing) rfl rfl hturn.2 rfl reads
            (mirrors_fail .cancelled reads 0 hlive) ?_
          rw [Course.take_of_some hturn.2]
          exact Or.inr ⟨rfl, rfl⟩
      | resume =>
          have htake := Course.take_of_some hturn.1 reads
          -- What happens on entry decides between the two ways to end.
          rcases begin_cases ho hpassed hkept steps reads 0 with
            ⟨cause, hout⟩ | ⟨⟨tick, more, hfirst⟩, hshadows⟩
          · rw [show begin (some o) i (Course.ofScript scope steps failing).failing steps reads
              (Course.ofScript scope steps failing).live = _ from hout] at htake
            rw [htake]
            exact .failed cause rfl
          · refine .next (.waiting steps failing) rfl rfl hturn.1 rfl reads hshadows ?_
            rw [htake]
            exact Or.inl ⟨tick, _, by rw [List.nil_append]; exact congrArg (· ++ _) hfirst⟩
  | alongside hbegun hstage hevents hbeside =>
      cases hphase : c.phase with
      | waiting steps => exact absurd hphase (hstage.phase_ne_waiting hbegun.ne_nil steps)
      | ended =>
          rw [Course.take_of_none (Course.turn?_of_ended hphase command), List.append_nil]
          refine .alongside hbegun hstage ?_ ?_ <;>
            rw [Course.runAlone_append, Course.takeAlone_of_ended (hbeside.phase ▸ hphase)]
          · rwa [List.append_nil]
          · exact hbeside
      | paused rest =>
          have hturn := Course.turn?_of_paused (some o) i hphase
          have halone := Course.turnAlone?_of_paused (hbeside.phase ▸ hphase)
          obtain ⟨host', tick, hgoing⟩ := hstage.going_of_paused hphase hbegun hpassed hhost
          have hafter := hbegun.append hphase (c.take (some o) i reads command).events
            (c.take (some o) i reads command).course
          cases command with
          | resume =>
              refine .next hstage hevents hbeside.failing hturn.1 halone.1 reads ?_ hafter
              rw [hbeside.failing]
              exact proceed_shadows ho ⟨rfl, rfl⟩ hgoing hbeside.live rest reads 0
          | cancel =>
              refine .next hstage hevents hbeside.failing hturn.2 halone.2 reads ?_ hafter
              exact (ho.finish i).skip (mirrors_fail .cancelled) reads 0 hbeside.live

/-- The exchange with these events was entered, unless it was cancelled before, and is
what its script is on its own under these commands. -/
structure EndsAlone (script : Course) (commands : List Command) (events : List Event) : Prop where
  entered : (∃ tick more,
      events = .clock (.tick tick) :: .entered (script.live.scope.get "type") :: more) ∨
    events = [.done (some .cancelled)]
  alone : outside events = (script.runAlone commands).1

/-- **Endings.** An exchange that is not passed over ends as its application does on its
own under the same commands, with the same events up to that, whatever fails when the
clock is read for a start or for the line: the application is entered and fails only with
failures of its own. The only exception is a clock that fails on entry. Then the exchange
ends with this failure, and its application is not entered. -/
theorem ends_alone_or_fails_on_entry {o : Observer} (ho : o.IsOrderly) {courses : List Course}
    {i : Nat} {scope : Table} {steps : List AppStep} {failing : List Nat}
    (hc : courses[i]? = some (.ofScript scope steps failing)) (schedule : List Signal)
    (hserved : IsServed scope) (hpassed : o.isPassedOver scope = .ok false) :
    (∃ cause, own i (trace (some o) courses schedule) =
        [.clock (.fails cause), .done (some cause)]) ∨
      EndsAlone (.ofScript scope steps failing) (commandsFor i (schedule ++ completion courses))
        (own i (trace (some o) courses schedule)) := by
  obtain ⟨c, hc', h⟩ := State.run_follows (some o) i
    (Follows o i scope (.ofScript scope steps failing))
    (fun _ _ _ reads command h => h.take ho hserved hpassed reads command)
    (schedule ++ completion courses) ⟨0, courses⟩ [] hc .waiting
  -- The completion brings every exchange to its end, so this one does not wait any more.
  have hended := phase_after_completion (some o) schedule hc hc'
  rw [List.nil_append, List.nil_append] at h
  rw [trace]
  generalize own i (State.run (some o) ⟨0, courses⟩ (schedule ++ completion courses)) = events
    at h ⊢
  generalize commandsFor i (schedule ++ completion courses) = commands at h ⊢
  cases h with
  | waiting => cases hended
  | failed cause _ => exact Or.inl ⟨cause, rfl⟩
  | alongside hbegun _ hevents _ => exact Or.inr ⟨hbegun.imp_right And.left, hevents⟩

end Runs

/-- An observer that nobody is satisfied with, and whose clock answers these readings. -/
def Observer.failing (readings : List Reading) : Observer where
  template := Template.parse ":status in :response-time"
  blacklist := []
  clock := Clock.ofReadings readings
  callback := some fun _ _ => some (.raised .value "no")
  sink := fun _ _ => some (.raised .os "full")

/-- A clock has stopped. -/
def stopped : Reading := .fails (.raised .os "stopped")

theorem isOrderly_failing {readings : List Reading}
    (h : ∀ cause, .fails cause ∈ readings → cause.isOrdinary = true) :
    (Observer.failing readings).IsOrderly where
  clock n cause hn := by
    have hn : Clock.ofReadings readings n = .fails cause := hn
    unfold Clock.ofReadings at hn
    split at hn
    · rename_i r hr
      exact h cause (hn ▸ List.mem_of_getElem? hr)
    · cases hlast : readings.getLast? with
      | none => rw [hlast] at hn; cases hn
      | some r =>
          rw [hlast] at hn
          exact h cause (hn ▸ List.mem_of_getLast? hlast)
  callback := by
    rintro _ ⟨⟩ i tokens cause ⟨⟩
    rfl
  sink := by
    rintro i line cause ⟨⟩
    rfl

/-- An application whose first message is refused, and which fails after its last one. -/
def carelessSteps : List AppStep :=
  [⟨.send [(.text "body", .bytes [])], true⟩, ⟨.send (sampleStart 200), false⟩, ⟨.pause, false⟩,
    ⟨.send sampleBody, false⟩, ⟨.fail (.raised .runtime "late"), false⟩]

/-- The clock of the observer has stopped when the response starts and when its line is
due. -/
theorem ends_alone_of_careless :
    (Observer.failing [.tick (.int 0), stopped]).IsOrderly ∧ IsServed sampleScope ∧
      (Observer.failing [.tick (.int 0), stopped]).isPassedOver sampleScope = .ok false ∧
      ((∃ cause, own 0 (trace (some (.failing [.tick (.int 0), stopped]))
          [.ofScript sampleScope carelessSteps []] []) =
            [.clock (.fails cause), .done (some cause)]) ∨
        EndsAlone (.ofScript sampleScope carelessSteps [])
          (commandsFor 0 ([] ++ completion [.ofScript sampleScope carelessSteps []]))
          (own 0 (trace (some (.failing [.tick (.int 0), stopped]))
            [.ofScript sampleScope carelessSteps []] []))) := by
  have ho : (Observer.failing [.tick (.int 0), stopped]).IsOrderly :=
    isOrderly_failing (by simp [stopped, Failure.isOrdinary, RaisedKind.isOrdinary])
  exact ⟨ho, isServed_sampleScope, rfl,
    ends_alone_or_fails_on_entry ho rfl [] isServed_sampleScope rfl⟩

/-- With a clock that has stopped on entry, an exchange fails although its application
would end well on its own. -/
theorem fails_on_entry_of_stopped :
    (Observer.failing [stopped]).IsOrderly ∧ IsServed sampleScope ∧
      (Observer.failing [stopped]).isPassedOver sampleScope = .ok false ∧
      own 0 (trace (some (.failing [stopped])) [.ofScript sampleScope [] []] []) =
        [.clock stopped, .done (some (.raised .os "stopped"))] ∧
      ((Course.ofScript sampleScope [] []).runAlone
        (commandsFor 0 (completion [.ofScript sampleScope [] []]))).1 =
          [.entered (.text "http"), .done none] :=
  ⟨isOrderly_failing (by simp [stopped, Failure.isOrdinary, RaisedKind.isOrdinary]),
    isServed_sampleScope, rfl, by decide +kernel, by decide +kernel⟩

end AccessLog.Gateway
