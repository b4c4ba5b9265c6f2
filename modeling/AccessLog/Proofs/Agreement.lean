import AccessLog.Proofs.Turns

/-!
# Observers that act alike

Two observers are compared on the same exchanges, under the same schedule. What is asked
of them is small: that beginning, marking a start and finishing take the same reads of the
clock, leave the same live state and end in the same way (`Resembles`). The events that
they leave need not be the same, only related, by a relation that can be told piece by
piece (`Piecewise`). Then whole runs consist of the same turns of the same exchanges, with
related events in each of them (`Resembles.trace`).

Beside itself, an observer shows what the events of its runs have in common: what holds of
each piece that the three activities leave holds of the events of every exchange.
-/

namespace AccessLog.Gateway

/-- A relation between events that can be told piece by piece, and in which what is not an
observer's doing is related to itself. -/
structure Piecewise (R : List Event → List Event → Prop) : Prop where
  nil : R [] []
  append : ∀ {es es' more more'}, R es es' → R more more' → R (es ++ more) (es' ++ more')
  outside : ∀ {e : Event}, e.isObservers = false → R [e] [e]

theorem Piecewise.cons {R : List Event → List Event → Prop} (hR : Piecewise R) {e : Event}
    {es es' : List Event} (he : R [e] [e]) (h : R es es') : R (e :: es) (e :: es') :=
  hR.append he h

/-- Two outcomes that differ in nothing but their events, which are related. -/
structure Outcome.Agrees {α : Type} (R : List Event → List Event → Prop) (p q : Outcome α) :
    Prop where
  result : p.result = q.result
  reads : p.reads = q.reads
  live : p.live = q.live
  events : R p.events q.events

/-- Two activities that agree wherever they are started. -/
def Agrees {α : Type} (R : List Event → List Event → Prop) (x y : Activity α) : Prop :=
  ∀ reads l, (x reads l).Agrees R (y reads l)

section Closure

variable {α β : Type} {R : List Event → List Event → Prop}

theorem Agrees.bind (hR : Piecewise R) {x y : Activity α} {f g : α → Activity β}
    (h : Agrees R x y) (hf : ∀ a, Agrees R (f a) (g a)) : Agrees R (x >>= f) (y >>= g) := by
  intro reads l
  have hx := h reads l
  cases hr : (x reads l).result with
  | error cause =>
      rw [Activity.bind_apply_of_error hr, Activity.bind_apply_of_error (hx.result ▸ hr)]
      exact ⟨rfl, hx.reads, hx.live, hx.events⟩
  | ok a =>
      rw [Activity.bind_apply_of_ok hr, Activity.bind_apply_of_ok (hx.result ▸ hr),
        hx.reads, hx.live]
      have hrest := hf a (y reads l).reads (y reads l).live
      exact ⟨hrest.result, hrest.reads, hrest.live, hR.append hx.events hrest.events⟩

theorem agrees_pure (hR : Piecewise R) (a : α) : Agrees R (pure a) (pure a) :=
  fun _ _ => ⟨rfl, rfl, rfl, hR.nil⟩

theorem agrees_fail (hR : Piecewise R) (cause : Failure) :
    Agrees R (Activity.fail cause : Activity α) (Activity.fail cause) :=
  fun _ _ => ⟨rfl, rfl, rfl, hR.nil⟩

theorem agrees_leave (hR : Piecewise R) {e : Event} (h : e.isObservers = false) :
    Agrees R (Activity.leave e) (Activity.leave e) :=
  fun _ _ => ⟨rfl, rfl, rfl, hR.outside h⟩

theorem Agrees.attempt {x y : Activity α} (h : Agrees R x y) : Agrees R x.attempt y.attempt :=
  fun reads l =>
    let hx := h reads l
    ⟨congrArg Except.ok hx.result, hx.reads, hx.live, hx.events⟩

theorem Agrees.recover (hR : Piecewise R) {x y : Activity Unit}
    {handle handle' : Failure → Activity Unit} (h : Agrees R x y)
    (hh : ∀ cause, Agrees R (handle cause) (handle' cause)) :
    Agrees R (x.recover handle) (y.recover handle') := by
  refine h.attempt.bind hR fun result => ?_
  cases result with
  | ok _ => exact agrees_pure hR ()
  | error cause =>
      dsimp only
      split
      · exact hh cause
      · exact agrees_fail hR cause

/-- What an activity makes of the live state that it finds. -/
theorem agrees_live_bind {f g : Live → Activity α} (h : ∀ l, Agrees R (f l) (g l)) :
    Agrees R (Activity.live >>= f) (Activity.live >>= g) := fun reads l => by
  rw [Activity.live_bind_apply, Activity.live_bind_apply]
  exact h l reads l

end Closure

/-- Two observers begin, mark starts and finish in agreement. -/
structure Resembles (R : List Event → List Event → Prop) (o o' : Observer) : Prop where
  beginCapture : Agrees R o.beginCapture o'.beginCapture
  marking : ∀ message, Agrees R (o.marking message) (o'.marking message)
  finish : ∀ i, Agrees R (o.finish i) (o'.finish i)

section Turns

variable {R : List Event → List Event → Prop} {o o' : Observer} {i : Nat} {failing : List Nat}

theorem agrees_hostSend (hR : Piecewise R) (message : Table) :
    Agrees R (hostSend failing message) (hostSend failing message) := by
  intro reads l
  rw [hostSend_apply]
  split <;> exact ⟨rfl, rfl, rfl, hR.outside rfl⟩

theorem Resembles.forward (hR : Piecewise R) (h : Resembles R o o') (message : Table) :
    Agrees R (o.forward i failing message) (o'.forward i failing message) := by
  rw [Observer.forward_eq, Observer.forward_eq]
  refine Agrees.bind hR ?demand fun _ => Agrees.bind hR ?before fun _ =>
    (agrees_hostSend hR message).bind hR fun _ => ?after
  case demand =>
    intro reads l
    rw [Activity.ofExcept_apply]
    exact ⟨rfl, rfl, rfl, hR.nil⟩
  case before =>
    unfold Observer.beforeSend
    split
    · exact h.marking message
    · exact agrees_pure hR ()
  case after =>
    unfold Observer.afterSend
    split
    · exact h.finish i
    · exact agrees_pure hR ()

theorem Resembles.sendOf (hR : Piecewise R) (h : Resembles R o o') (message : Table) :
    Agrees R (sendOf (some o) i failing message) (sendOf (some o') i failing message) := by
  refine agrees_live_bind fun l => ?_
  cases l.capture with
  | none => exact agrees_hostSend hR message
  | some c => exact h.forward hR message

variable {send send' : Send}

theorem agrees_act (hR : Piecewise R) (h : ∀ message, Agrees R (send message) (send' message))
    (act : Act) : Agrees R (act.perform send) (act.perform send') := by
  cases act with
  | send message => exact (agrees_leave hR rfl).bind hR fun _ => h message
  | receive => exact agrees_leave hR rfl
  | pause => exact agrees_pure hR ()
  | assign path v =>
      refine agrees_live_bind fun l reads l' => ?_
      cases assignIn l.scope path v with
      | error cause => exact ⟨rfl, rfl, rfl, hR.nil⟩
      | ok scope => exact ⟨rfl, rfl, rfl, hR.outside rfl⟩
  | remove key =>
      intro reads l
      simp only [Act.perform]
      split
      · exact ⟨rfl, rfl, rfl, hR.outside rfl⟩
      · exact ⟨rfl, rfl, rfl, hR.nil⟩
  | fail cause => exact agrees_fail hR cause

theorem agrees_step (hR : Piecewise R) (h : ∀ message, Agrees R (send message) (send' message))
    (step : AppStep) : Agrees R (step.perform send) (step.perform send') := by
  unfold AppStep.perform
  split
  · exact (agrees_act hR h step.act).recover hR fun _ => agrees_leave hR rfl
  · exact agrees_act hR h step.act

theorem agrees_advance (hR : Piecewise R)
    (h : ∀ message, Agrees R (send message) (send' message)) :
    ∀ steps, Agrees R (advance send steps) (advance send' steps)
  | [] => agrees_pure hR _
  | step :: rest => by
      rw [advance, advance]
      split
      · exact agrees_pure hR _
      · exact (agrees_step hR h step).bind hR fun _ => agrees_advance hR h rest

theorem Resembles.proceed (hR : Piecewise R) (h : Resembles R o o') (steps : List AppStep) :
    Agrees R (proceed (some o) i failing steps) (proceed (some o') i failing steps) := by
  refine (agrees_advance hR (h.sendOf hR) steps).attempt.bind hR fun result => ?_
  cases result with
  | ok progress =>
      cases progress with
      | paused rest => exact agrees_pure hR _
      | returned => exact (h.finish i).bind hR fun _ => agrees_pure hR _
  | error cause => exact (h.finish i).bind hR fun _ => agrees_fail hR cause

theorem Resembles.begin (hR : Piecewise R) (h : Resembles R o o') (steps : List AppStep) :
    Agrees R (begin (some o) i failing steps) (begin (some o') i failing steps) :=
  h.beginCapture.bind hR fun _ => agrees_live_bind fun _ =>
    (agrees_leave hR rfl).bind hR fun _ => h.proceed hR steps

theorem Resembles.interrupt (hR : Piecewise R) (h : Resembles R o o') :
    Agrees R (interrupt (some o) i) (interrupt (some o') i) :=
  (h.finish i).bind hR fun _ => agrees_fail hR .cancelled

/-- An exchange takes a turn with one of the observers when it does with the other. -/
theorem Resembles.turn? (hR : Piecewise R) (h : Resembles R o o') (c : Course)
    (command : Command) :
    c.turn? (some o) i command = none ∧ c.turn? (some o') i command = none ∨
      ∃ x y, c.turn? (some o) i command = some x ∧ c.turn? (some o') i command = some y ∧
        Agrees R x y := by
  cases hphase : c.phase with
  | ended => exact Or.inl ⟨Course.turn?_of_ended hphase _, Course.turn?_of_ended hphase _⟩
  | waiting steps =>
      have ho := Course.turn?_of_waiting (some o) i hphase
      have ho' := Course.turn?_of_waiting (some o') i hphase
      cases command with
      | resume => exact Or.inr ⟨_, _, ho.1, ho'.1, h.begin hR steps⟩
      | cancel => exact Or.inr ⟨_, _, ho.2, ho'.2, agrees_fail hR .cancelled⟩
  | paused rest =>
      have ho := Course.turn?_of_paused (some o) i hphase
      have ho' := Course.turn?_of_paused (some o') i hphase
      cases command with
      | resume => exact Or.inr ⟨_, _, ho.1, ho'.1, h.proceed hR rest⟩
      | cancel => exact Or.inr ⟨_, _, ho.2, ho'.2, h.interrupt hR⟩

theorem isObservers_event (result : Except Failure Progress) :
    (Progress.event result).isObservers = false := by
  cases result with
  | ok progress => cases progress <;> rfl
  | error cause => rfl

/-- A turn leaves the exchange and the clock alike, with related events. -/
theorem Resembles.take (hR : Piecewise R) (h : Resembles R o o') (c : Course) (reads : Nat)
    (command : Command) :
    R (c.take (some o) i reads command).events (c.take (some o') i reads command).events ∧
      (c.take (some o) i reads command).reads = (c.take (some o') i reads command).reads ∧
      (c.take (some o) i reads command).course = (c.take (some o') i reads command).course := by
  rcases h.turn? hR (i := i) c command with ⟨hx, hy⟩ | ⟨x, y, hx, hy, hagrees⟩
  · rw [Course.take_of_none hx, Course.take_of_none hy]
    exact ⟨hR.nil, rfl, rfl⟩
  · have hturn := hagrees reads c.live
    rw [Course.take_of_some hx, Course.take_of_some hy, Course.afterTurn, Course.afterTurn,
      hturn.result, hturn.live]
    exact ⟨hR.append hturn.events (hR.outside (isObservers_event _)), hturn.reads, rfl⟩

end Turns

/-! ## Runs -/

/-- Two runs that consist of turns of the same exchanges, with related events. -/
inductive Turnwise (R : List Event → List Event → Prop) : List Tagged → List Tagged → Prop
  | nil : Turnwise R [] []
  | turn (i : Nat) {es es' : List Event} {rest rest' : List Tagged} (hturn : R es es')
      (hrest : Turnwise R rest rest') :
      Turnwise R (es.map (i, ·) ++ rest) (es'.map (i, ·) ++ rest')

/-- What is related in every turn is related among all the events of one exchange. -/
theorem Turnwise.own {R : List Event → List Event → Prop} (hR : Piecewise R)
    {events events' : List Tagged} (h : Turnwise R events events') (i : Nat) :
    R (own i events) (own i events') := by
  induction h with
  | nil => exact hR.nil
  | turn j hturn _ ih =>
      rw [own_append, own_append]
      by_cases hj : j = i
      · subst hj
        rw [own_map_self, own_map_self]
        exact hR.append hturn ih
      · rw [own_map_of_ne hj, own_map_of_ne hj]
        exact ih

section Runs

variable {R : List Event → List Event → Prop} {o o' : Observer}

theorem Resembles.run (hR : Piecewise R) (h : Resembles R o o') (signals : List Signal) :
    ∀ s : State, Turnwise R (s.run (some o) signals) (s.run (some o') signals) := by
  induction signals with
  | nil => exact fun s => .nil
  | cons signal rest ih =>
      intro s
      rw [State.run, State.run]
      cases hc : s.courses[signal.index]? with
      | none =>
          rw [State.step_of_none hc, State.step_of_none hc]
          exact ih s
      | some c =>
          -- The turn leaves one and the same state, from which both runs go on.
          obtain ⟨hevents, hreads, hcourse⟩ :=
            h.take hR (i := signal.index) c s.reads signal.command
          rw [State.step_of_eq hc, State.step_of_eq hc, hreads, hcourse]
          exact .turn signal.index hevents (ih _)

/-- Observers that begin, mark and finish in agreement leave runs that consist of the same
turns, with related events. -/
theorem Resembles.trace (hR : Piecewise R) (h : Resembles R o o') (courses : List Course)
    (schedule : List Signal) :
    Turnwise R (trace (some o) courses schedule) (trace (some o') courses schedule) :=
  h.run hR _ _

end Runs

end AccessLog.Gateway
