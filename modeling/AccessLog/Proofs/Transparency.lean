import AccessLog.Proofs.Turns

/-!
# An observer is transparent

Whoever looks at exchanges from outside of the observer cannot tell that there is
one: without the observer's own events, the observed run is the run of the same
applications bare on the same host (`filter_trace_eq_trace_none`).

The proof is a simulation. `Live.Shadows` relates the live state of an observed
exchange to that of a bare one: the same scope, the same number of messages sent,
and a capture on one side only. `Mirrors` says that two activities, started in
related states, end alike: with the same result, in related states, and with the
same events, the observer's own apart. It passes through `>>=`, `attempt` and
`recover`, so what is left to show is that marking a start and finishing an
exchange mirror doing nothing at all. This is where the failures matter: those of
the observer's participants are dealt with inside as long as they are ordinary
(`IsOrderly`), and those of the application and of the host go on unchanged.
-/

namespace AccessLog.Gateway

/-- The events that are not the observer's own. -/
def outside (events : List Event) : List Event := events.filter fun e => !e.isObservers

theorem outside_append (events more : List Event) :
    outside (events ++ more) = outside events ++ outside more :=
  List.filter_append ..

/-! ## The simulation relation -/

/-- The live state of an observed exchange, beside that of a bare one. -/
structure Live.Shadows (l bare : Live) : Prop where
  scope : l.scope = bare.scope
  sends : l.sends = bare.sends
  armed : ∀ c, l.capture = some c → ∃ emission, c.handler = some emission
  uncaptured : bare.capture = none

/-- The outcome in an observed exchange, beside that in a bare one. -/
structure Outcome.Shadows {α : Type} (p bare : Outcome α) : Prop where
  result : p.result = bare.result
  live : p.live.Shadows bare.live
  events : outside p.events = bare.events

/-- The two activities end alike, wherever the clock stands. -/
def Mirrors {α : Type} (x y : Activity α) : Prop :=
  ∀ reads reads' {l bare : Live}, l.Shadows bare → (x reads l).Shadows (y reads' bare)

section Closure

variable {α β : Type}

theorem Outcome.Shadows.bind {x y : Activity α} {f g : α → Activity β} {reads reads' : Nat}
    {l bare : Live} (h : (x reads l).Shadows (y reads' bare)) (hf : ∀ a, Mirrors (f a) (g a)) :
    ((x >>= f) reads l).Shadows ((y >>= g) reads' bare) := by
  cases hx : (x reads l).result with
  | error cause =>
      rw [Activity.bind_apply_of_error hx, Activity.bind_apply_of_error (h.result ▸ hx)]
      exact ⟨rfl, h.live, h.events⟩
  | ok a =>
      rw [Activity.bind_apply_of_ok hx, Activity.bind_apply_of_ok (h.result ▸ hx)]
      have hrest := hf a (x reads l).reads (y reads' bare).reads h.live
      exact ⟨hrest.result, hrest.live, by
        rw [outside_append, h.events, hrest.events]⟩

theorem Mirrors.bind {x y : Activity α} {f g : α → Activity β} (h : Mirrors x y)
    (hf : ∀ a, Mirrors (f a) (g a)) : Mirrors (x >>= f) (y >>= g) :=
  fun reads reads' _ _ hl => (h reads reads' hl).bind hf

theorem mirrors_pure (a : α) : Mirrors (pure a) (pure a) :=
  fun _ _ _ _ hl => ⟨rfl, hl, rfl⟩

theorem mirrors_fail (cause : Failure) :
    Mirrors (Activity.fail cause : Activity α) (Activity.fail cause) :=
  fun _ _ _ _ hl => ⟨rfl, hl, rfl⟩

theorem mirrors_leave {e : Event} (h : e.isObservers = false) :
    Mirrors (Activity.leave e) (Activity.leave e) :=
  fun _ _ _ _ hl => ⟨rfl, hl, by simp [outside, h]⟩

theorem Mirrors.attempt {x y : Activity α} (h : Mirrors x y) : Mirrors x.attempt y.attempt :=
  fun reads reads' _ _ hl =>
    let hx := h reads reads' hl
    ⟨congrArg Except.ok hx.result, hx.live, hx.events⟩

theorem Mirrors.recover {x y : Activity Unit} {handle handle' : Failure → Activity Unit}
    (h : Mirrors x y) (hh : ∀ cause, Mirrors (handle cause) (handle' cause)) :
    Mirrors (x.recover handle) (y.recover handle') := by
  refine h.attempt.bind fun result => ?_
  match result with
  | .ok () => exact mirrors_pure ()
  | .error cause =>
      dsimp only
      split
      · exact hh cause
      · exact mirrors_fail cause

/-- An activity that mirrors doing nothing may come before anything. -/
theorem Mirrors.skip {x : Activity Unit} {y z : Activity α} (hx : Mirrors x (pure ()))
    (h : Mirrors y z) : Mirrors (x >>= fun _ => y) z := by
  have hbind := hx.bind (f := fun _ => y) (g := fun _ => z) fun _ => h
  rwa [pure_bind] at hbind

/-- An activity that mirrors doing nothing may come after anything. -/
theorem Mirrors.skip_after {x y : Activity Unit} {z : Activity Unit} (h : Mirrors x y)
    (hz : Mirrors z (pure ())) : Mirrors (x >>= fun _ => z) y := by
  have hbind := h.bind (f := fun _ => z) (g := pure) fun _ => hz
  rwa [bind_pure] at hbind

end Closure

/-! ## What the observer does shows nowhere outside -/

/-- The clock, the callback and the sink raise nothing but ordinary failures. -/
structure Observer.IsOrderly (o : Observer) : Prop where
  clock : ∀ n cause, o.clock n = .fails cause → cause.isOrdinary = true
  callback : ∀ f, o.callback = some f →
    ∀ i tokens cause, f i tokens = some cause → cause.isOrdinary = true
  sink : ∀ i line cause, o.sink i line = some cause → cause.isOrdinary = true

theorem OnlyLogged.outside {events : List Event} (h : OnlyLogged events) :
    outside events = [] := by
  rw [Gateway.outside, List.filter_eq_nil_iff]
  intro e he
  obtain ⟨record, rfl⟩ := h e he
  exact Bool.false_ne_true

theorem Reports.outside {events reports : List Event} (h : Reports events reports) :
    outside events = [] := by
  rw [Gateway.outside, List.filter_eq_nil_iff]
  intro e he
  rcases h.records e he with hreport | ⟨record, rfl⟩
  · cases e <;> simp_all [Event.isReport, Event.isObservers]
  · exact Bool.false_ne_true

theorem outside_lookUp (m : Moment) (reading : Reading) : outside (m.lookUp reading) = [] := by
  unfold Moment.lookUp
  split <;> rfl

namespace Observer

variable {o : Observer}

/-- Nothing escapes from an emission. -/
theorem IsOrderly.escapingOf (ho : o.IsOrderly) (i : Nat) (m : Moment) (n : Nat) :
    o.escapingOf i (m.rendering o.template (o.clock n)) = .ok () := by
  have hanswer : ∀ r, o.escapingOf i (.ok r) = .ok () := fun r =>
    escapingOf_of_escaping (escaping_answerOf ho.callback i r.tokens)
      (escaping_of_ordinary (ho.sink i (lineOf r)))
  unfold Moment.rendering
  cases Request.ofScope m.scope m.host with
  | error cause => rfl
  | ok request =>
      cases hr : o.clock n with
      | fails cause => exact escaping_some (ho.clock n cause hr)
      | tick tick =>
          dsimp only
          cases o.template.render ⟨request, m.response, m.marks, tick⟩ with
          | error cause => rfl
          | ok r => exact hanswer r

/-- Nothing escapes from a start that cannot be recorded. -/
theorem IsOrderly.escaping_answerTo (ho : o.IsOrderly) {message : Table} {n : Nat}
    {cause : Failure} (h : answerTo message (o.clock n) = .error cause) :
    escaping (some cause) = .ok () := by
  cases hr : o.clock n with
  | fails cause' =>
      obtain rfl : cause' = cause := by simpa [answerTo, hr] using h
      exact escaping_some (ho.clock n cause' hr)
  | tick tick =>
      rw [hr, answerTo] at h
      cases hm : Response.ofStart (.table message) with
      | ok response => rw [hm] at h; cases h
      | error fault => rw [hm] at h; cases h; rfl

theorem IsOrderly.marking (ho : o.IsOrderly) (message : Table) :
    Mirrors (o.marking message) (pure ()) := by
  intro reads reads' l bare hl
  rcases o.marking_cases message reads l with
    ⟨-, hout⟩ | ⟨c, hc, -, ⟨tick, response, -, -, hout⟩ | ⟨cause, hcause, hout⟩⟩
  · rw [hout]
    exact ⟨rfl, hl, rfl⟩
  · rw [hout]
    refine ⟨rfl, ⟨hl.scope, hl.sends, ?_, hl.uncaptured⟩, rfl⟩
    rintro _ ⟨⟩
    exact hl.armed c hc
  · rw [hout]
    exact ⟨ho.escaping_answerTo hcause, hl, (onlyLogged_aftermath _ (some cause)).outside⟩

theorem IsOrderly.finish (ho : o.IsOrderly) (i : Nat) : Mirrors (o.finish i) (pure ()) := by
  intro reads reads' l bare hl
  rcases Observer.finish_cases l with hfinished | ⟨c, hc, hf, -⟩
  · rw [o.finish_of_finished i hfinished]
    exact ⟨rfl, hl, rfl⟩
  · obtain ⟨emission, hh⟩ := hl.armed c hc
    obtain ⟨events, hout, haccount⟩ := o.finish_of_armed i hc hf hh reads
    rw [hout]
    refine ⟨ho.escapingOf .., ⟨hl.scope, hl.sends, ?_, hl.uncaptured⟩, ?_⟩
    · rintro _ ⟨⟩
      exact ⟨emission, hh⟩
    · show outside (_ ++ events) = []
      rw [outside_append, outside_lookUp, haccount.outside]
      rfl

theorem mirrors_hostSend (failing : List Nat) (message : Table) :
    Mirrors (hostSend failing message) (hostSend failing message) := by
  intro reads reads' l bare hl
  rw [hostSend_apply, hostSend_apply, hl.sends]
  split <;> exact ⟨rfl, ⟨hl.scope, rfl, hl.armed, hl.uncaptured⟩, rfl⟩

/-- A message that names its type is forwarded as the host would be handed it. -/
theorem IsOrderly.forward (ho : o.IsOrderly) (i : Nat) (failing : List Nat) {message : Table}
    {type : Value} (hm : message.get? "type" = some type) :
    Mirrors (o.forward i failing message) (hostSend failing message) := by
  have hdemand : message.demand "type" = .ok type := by simp [Table.demand, hm]
  rw [forward_eq, hdemand, Activity.ofExcept_ok_bind]
  have hbefore : Mirrors (o.beforeSend message) (pure ()) := by
    unfold beforeSend
    split
    · exact ho.marking message
    · exact mirrors_pure ()
  have hafter : Mirrors (o.afterSend i message) (pure ()) := by
    unfold afterSend
    split
    · exact ho.finish i
    · exact mirrors_pure ()
  exact hbefore.skip ((mirrors_hostSend failing message).skip_after hafter)

end Observer

/-! ## Turns -/

section Turns

variable {o : Observer} {i : Nat} {failing : List Nat}

/-- Every message that is sent names its type. -/
def Act.IsTyped : Act → Prop
  | .send message => ∃ type, message.get? "type" = some type
  | _ => True

theorem mirrors_sendOf (ho : o.IsOrderly) {message : Table} {type : Value}
    (hm : message.get? "type" = some type) :
    Mirrors (sendOf (some o) i failing message) (sendOf none i failing message) := by
  intro reads reads' l bare hl
  unfold sendOf
  rw [Activity.live_bind_apply, Activity.live_bind_apply]
  cases hc : l.capture with
  | none => exact Observer.mirrors_hostSend failing message reads reads' hl
  | some c => exact ho.forward i failing hm reads reads' hl

theorem Live.Shadows.changeHost {l bare : Live} (hl : l.Shadows bare)
    (f : KeptHost → KeptHost) (scope : Table) :
    Live.Shadows { l.changeHost f with scope } { bare.changeHost f with scope } where
  scope := rfl
  sends := hl.sends
  armed := by
    intro c hc
    obtain ⟨c', hc', rfl⟩ := Option.map_eq_some_iff.mp hc
    obtain ⟨emission, hh⟩ := hl.armed c' hc'
    exact ⟨_, by rw [Capture.mapHandler, hh]; rfl⟩
  uncaptured := by simp [Live.changeHost, hl.uncaptured]

/-- An application does the same with either way to send, as long as its messages fare
alike. -/
theorem mirrors_act {send send' : Send} {act : Act}
    (h : ∀ message, act = .send message → Mirrors (send message) (send' message)) :
    Mirrors (act.perform send) (act.perform send') := by
  cases act with
  | send message => exact (mirrors_leave rfl).bind fun _ => h message rfl
  | receive => exact mirrors_leave rfl
  | pause => exact mirrors_pure ()
  | assign path v =>
      intro reads reads' l bare hl
      simp only [Act.perform, Activity.live_bind_apply, hl.scope]
      cases assignIn bare.scope path v with
      | error cause => exact ⟨rfl, hl, rfl⟩
      | ok scope => exact ⟨rfl, hl.changeHost .., rfl⟩
  | remove key =>
      intro reads reads' l bare hl
      simp only [Act.perform]
      split
      · rw [Activity.live_bind_apply, Activity.live_bind_apply, hl.scope]
        exact ⟨rfl, hl.changeHost .., rfl⟩
      · exact ⟨rfl, hl, rfl⟩
  | fail cause => exact mirrors_fail cause

theorem mirrors_step {send send' : Send} {step : AppStep}
    (h : ∀ message, step.act = .send message → Mirrors (send message) (send' message)) :
    Mirrors (step.perform send) (step.perform send') := by
  unfold AppStep.perform
  split
  · exact (mirrors_act h).recover fun _ => mirrors_leave rfl
  · exact mirrors_act h

theorem mirrors_advance {send send' : Send} :
    ∀ {steps : List AppStep}, (∀ step ∈ steps, ∀ message, step.act = .send message →
        Mirrors (send message) (send' message)) →
      Mirrors (advance send steps) (advance send' steps)
  | [], _ => mirrors_pure _
  | step :: rest, h => by
      rw [advance, advance]
      split
      · exact mirrors_pure _
      · exact (mirrors_step (h step (List.mem_cons_self ..))).bind fun _ =>
          mirrors_advance fun s hs => h s (List.mem_cons_of_mem _ hs)

theorem mirrors_proceed (ho : o.IsOrderly) {steps : List AppStep}
    (h : ∀ step ∈ steps, step.act.IsTyped) :
    Mirrors (proceed (some o) i failing steps) (proceed none i failing steps) := by
  have hsend : ∀ step ∈ steps, ∀ message, step.act = .send message →
      Mirrors (sendOf (some o) i failing message) (sendOf none i failing message) := by
    intro step hstep message hact
    obtain ⟨type, hm⟩ : ∃ type, message.get? "type" = some type := by
      simpa [Act.IsTyped, hact] using h step hstep
    exact mirrors_sendOf ho hm
  refine (mirrors_advance hsend).attempt.bind fun result => ?_
  match result with
  | .ok (.paused rest) => exact mirrors_pure _
  | .ok .returned => exact (ho.finish i).bind fun _ => mirrors_pure _
  | .error cause => exact (ho.finish i).bind fun _ => mirrors_fail cause

theorem mirrors_interrupt (ho : o.IsOrderly) :
    Mirrors (interrupt (some o) i) (interrupt none i) :=
  (ho.finish i).bind fun _ => mirrors_fail .cancelled

/-- A sequence that holds something. -/
def IsFilledSequence : Value → Prop
  | .text s => s ≠ ""
  | .bytes bs => bs ≠ []
  | .buffer bs => bs ≠ []
  | .list vs => vs ≠ []
  | .tuple vs => vs ≠ []
  | _ => False

theorem item_zero_of_elements {v w : Value} {vs : List Value} (hv : v.elements = .ok (w :: vs))
    (hitem : ∀ key, v.item key = (do Value.elementAt (← v.elements) key)) :
    v.item (.int 0) = .ok w := by
  rw [hitem, hv]
  simp [bind, Except.bind, Value.elementAt, Value.toInt?, Value.position?]

/-- A filled sequence has a first element. -/
theorem IsFilledSequence.item_zero {v : Value} (h : IsFilledSequence v) :
    v.isTruthy = true ∧ ∃ w, v.item (.int 0) = .ok w := by
  cases v with
  | text s =>
      have hne : s.toList ≠ [] := by simpa [IsFilledSequence] using h
      obtain ⟨c, cs, hcs⟩ := List.exists_cons_of_ne_nil hne
      exact ⟨by simpa [Value.isTruthy, IsFilledSequence] using h, _,
        item_zero_of_elements (by rw [Value.elements, hcs]; rfl) fun _ => rfl⟩
  | bytes bs =>
      obtain ⟨b, bs, rfl⟩ := List.exists_cons_of_ne_nil h
      exact ⟨rfl, _, item_zero_of_elements rfl fun _ => rfl⟩
  | buffer bs =>
      obtain ⟨b, bs, rfl⟩ := List.exists_cons_of_ne_nil h
      exact ⟨rfl, _, item_zero_of_elements rfl fun _ => rfl⟩
  | list vs =>
      obtain ⟨v, vs, rfl⟩ := List.exists_cons_of_ne_nil h
      exact ⟨rfl, _, item_zero_of_elements rfl fun _ => rfl⟩
  | tuple vs =>
      obtain ⟨v, vs, rfl⟩ := List.exists_cons_of_ne_nil h
      exact ⟨rfl, _, item_zero_of_elements rfl fun _ => rfl⟩
  | null => exact h.elim
  | bool b => exact h.elim
  | int n => exact h.elim
  | float x => exact h.elim
  | table entries => exact h.elim
  | object name => exact h.elim

/-- A scope as a server builds it: with a type, with texts as its paths if it has
any, and with the client's address as a sequence if it has one. -/
structure IsServed (scope : Table) : Prop where
  type : ∃ type, scope.get? "type" = some type
  path : ∀ v, scope.get? "path" = some v → ∃ s, v = .text s
  rootPath : ∀ v, scope.get? "root_path" = some v → ∃ s, v = .text s
  client : scope.get "client" = .null ∨ IsFilledSequence (scope.get "client")

theorem orElse_of_texts {scope : Table} {name : String}
    (h : ∀ v, scope.get? name = some v → ∃ s, v = .text s) :
    ∃ s, (scope.get name).orElse (.text "") = .text s := by
  unfold Table.get
  cases hv : scope.get? name with
  | none => exact ⟨"", rfl⟩
  | some v =>
      obtain ⟨s, rfl⟩ := h v hv
      by_cases hs : s = ""
      · exact ⟨"", by simp [hs, Value.orElse, Value.isTruthy]⟩
      · exact ⟨s, by simp [hs, Value.orElse, Value.isTruthy]⟩

/-- Whether an exchange with such a scope is passed over can be told. -/
theorem IsServed.isPassedOver {scope : Table} (h : IsServed scope) (o : Observer) :
    ∃ passed, o.isPassedOver scope = .ok passed := by
  obtain ⟨type, htype⟩ := h.type
  obtain ⟨p, hp⟩ := orElse_of_texts h.path
  obtain ⟨r, hr⟩ := orElse_of_texts h.rootPath
  have hdemand : scope.demand "type" = .ok type := by simp [Table.demand, htype]
  unfold Observer.isPassedOver
  rw [hdemand, requestedPath_of_texts hp hr]
  by_cases ht : type = .text "http"
  · simp [ht, bind, Except.bind, Value.isHashable, pure, Except.pure]
  · simp [ht, bind, Except.bind, pure, Except.pure]

/-- The client's host can be kept. -/
theorem IsServed.keptHost {scope : Table} (h : IsServed scope) :
    ∃ host, KeptHost.ofScope scope = .ok host := by
  unfold KeptHost.ofScope clientHost
  rcases h.client with hnull | hfilled
  · rw [hnull]
    exact ⟨_, rfl⟩
  · obtain ⟨htruthy, host, hitem⟩ := hfilled.item_zero
    exact ⟨_, by simp only [htruthy, if_true, hitem]; rfl⟩

/-- An exchange begins alike, unless the clock fails when it is read on entry. -/
theorem begin_shadows (ho : o.IsOrderly) {steps : List AppStep}
    (h : ∀ step ∈ steps, step.act.IsTyped) {l bare : Live} (hl : l.Shadows bare)
    (hserved : IsServed l.scope) {reads : Nat} (reads' : Nat)
    (hentry : ∀ cause,
      (begin (some o) i failing steps reads l).events.head? ≠ some (.clock (.fails cause))) :
    (begin (some o) i failing steps reads l).Shadows
      (begin none i failing steps reads' bare) := by
  have hrest : Mirrors
      (do Activity.leave (.entered ((← Activity.live).scope.get "type"))
          proceed (some o) i failing steps)
      (do Activity.leave (.entered ((← Activity.live).scope.get "type"))
          proceed none i failing steps) := by
    intro reads reads' l bare hl
    rw [Activity.live_bind_apply, Activity.live_bind_apply, hl.scope]
    exact ((mirrors_leave rfl).bind fun _ => mirrors_proceed ho h) reads reads' hl
  rw [begin_eq] at hentry ⊢
  rw [begin_eq]
  refine Outcome.Shadows.bind ?_ fun _ => hrest
  obtain ⟨passed, hpassed⟩ := hserved.isPassedOver o
  obtain ⟨host, hhost⟩ := hserved.keptHost
  have hbegin := o.beginCapture_apply reads l
  rw [hpassed, hhost] at hbegin
  cases passed with
  | true =>
      show (o.beginCapture reads l).Shadows _
      rw [hbegin]
      exact ⟨rfl, hl, rfl⟩
  | false =>
      cases hr : o.clock reads with
      | fails cause =>
          rw [hr] at hbegin
          refine absurd ?_ (hentry cause)
          have hfails : (beforeEntry (some o) reads l).result = .error cause := by
            rw [beforeEntry, hbegin]
          rw [Activity.bind_apply_of_error hfails, beforeEntry, hbegin]
          rfl
      | tick tick =>
          rw [hr] at hbegin
          show (o.beginCapture reads l).Shadows _
          rw [hbegin]
          refine ⟨rfl, ⟨hl.scope, hl.sends, ?_, hl.uncaptured⟩, rfl⟩
          rintro _ ⟨⟩
          exact ⟨_, rfl⟩

end Turns

/-! ## Runs -/

namespace Course

/-- An observed exchange, beside a bare one. -/
structure Shadows (c bare : Course) : Prop where
  failing : c.failing = bare.failing
  phase : c.phase = bare.phase
  live : c.live.Shadows bare.live
  typed : ∀ step ∈ c.steps, step.act.IsTyped
  served : ∀ steps, c.phase = .waiting steps → IsServed c.live.scope

end Course

theorem outside_event (result : Except Failure Progress) :
    outside [Progress.event result] = [Progress.event result] := by
  match result with
  | .ok (.paused _) => rfl
  | .ok .returned => rfl
  | .error _ => rfl

/-- Outcomes that are alike leave the same events outside, with how the turns end. -/
theorem Outcome.Shadows.outside_turn {p q : Outcome Progress} (h : p.Shadows q) :
    outside (p.events ++ [Progress.event p.result]) = q.events ++ [Progress.event q.result] := by
  rw [outside_append, outside_event, h.events, h.result]

/-- Outcomes that are alike leave courses that are, if the steps that are left
are among those that were. -/
theorem Outcome.Shadows.afterTurn {c bare : Course} (hc : c.Shadows bare)
    {p q : Outcome Progress} (h : p.Shadows q)
    (hrest : ∀ rest, p.result = .ok (.paused rest) → rest <:+ c.steps) :
    outside (p.events ++ [Progress.event p.result]) = q.events ++ [Progress.event q.result] ∧
      (c.afterTurn p).Shadows (bare.afterTurn q) := by
  refine ⟨h.outside_turn, hc.failing, congrArg Progress.phase h.result, h.live, ?_, ?_⟩
  · intro step hstep
    match hp : p.result with
    | .ok (.paused rest) =>
        simp only [Course.steps, Course.afterTurn, hp, Progress.phase] at hstep
        exact hc.typed step ((hrest rest hp).subset hstep)
    | .ok .returned => simp [Course.steps, Course.afterTurn, hp, Progress.phase] at hstep
    | .error cause => simp [Course.steps, Course.afterTurn, hp, Progress.phase] at hstep
  · intro steps hphase
    match hp : p.result with
    | .ok (.paused rest) => simp [Course.afterTurn, hp, Progress.phase] at hphase
    | .ok .returned => simp [Course.afterTurn, hp, Progress.phase] at hphase
    | .error cause => simp [Course.afterTurn, hp, Progress.phase] at hphase

/-- A turn is taken alike, unless the clock fails when it is read on entry. -/
theorem Course.Shadows.take {o : Observer} (ho : o.IsOrderly) {i : Nat} {c bare : Course}
    (hc : c.Shadows bare) (command : Command) (reads reads' : Nat)
    (hentry : ∀ steps, c.phase = .waiting steps → ∀ cause,
      (c.take (some o) i reads command).events.head? ≠ some (.clock (.fails cause))) :
    outside (c.take (some o) i reads command).events = (bare.take none i reads' command).events ∧
      (c.take (some o) i reads command).course.Shadows
        (bare.take none i reads' command).course := by
  have hturn : ∀ {x y : Activity Progress}, c.turn? (some o) i command = some x →
      bare.turn? none i command = some y → (x reads c.live).Shadows (y reads' bare.live) →
      outside (c.take (some o) i reads command).events =
          (bare.take none i reads' command).events ∧
        (c.take (some o) i reads command).course.Shadows
          (bare.take none i reads' command).course := by
    intro x y hx hy h
    rw [take_of_some hx, take_of_some hy]
    exact h.afterTurn hc fun rest hrest => (suffix_of_turn? hx hrest).2.1
  have htyped := hc.typed
  cases hphase : c.phase with
  | ended =>
      have hphase' := hc.phase ▸ hphase
      rw [take_of_none (turn?_of_ended hphase command),
        take_of_none (turn?_of_ended hphase' command)]
      exact ⟨rfl, hc⟩
  | waiting steps =>
      have hphase' := hc.phase ▸ hphase
      simp only [Course.steps, hphase] at htyped
      cases command with
      | cancel =>
          exact hturn (turn?_of_waiting _ _ hphase).2 (turn?_of_waiting _ _ hphase').2
            (mirrors_fail .cancelled reads reads' hc.live)
      | resume =>
          have hx := (turn?_of_waiting (some o) i hphase).1
          refine hturn hx (turn?_of_waiting _ _ hphase').1 ?_
          rw [← hc.failing]
          refine begin_shadows ho htyped hc.live (hc.served steps hphase) reads'
            fun cause hhead => ?_
          refine hentry steps hphase cause ?_
          rw [take_of_some hx, List.head?_append, hhead]
          rfl
  | paused steps =>
      have hphase' := hc.phase ▸ hphase
      simp only [Course.steps, hphase] at htyped
      cases command with
      | cancel =>
          exact hturn (turn?_of_paused _ _ hphase).2 (turn?_of_paused _ _ hphase').2
            (mirrors_interrupt ho reads reads' hc.live)
      | resume =>
          refine hturn (turn?_of_paused _ _ hphase).1 (turn?_of_paused _ _ hphase').1 ?_
          rw [← hc.failing]
          exact mirrors_proceed ho htyped reads reads' hc.live

/-- Observed exchanges, beside bare ones. -/
def State.Shadows (s bare : State) : Prop :=
  s.courses.length = bare.courses.length ∧
    ∀ {i : Nat} {c d : Course}, s.courses[i]? = some c → bare.courses[i]? = some d → c.Shadows d

theorem filter_map_eq_map_outside (i : Nat) (events : List Event) :
    (events.map (i, ·)).filter (fun e : Tagged => !e.2.isObservers) =
      (outside events).map (i, ·) := by
  rw [List.filter_map]
  rfl

/-- A signal is passed on alike, unless the clock fails when it is read on entry. -/
theorem State.Shadows.step {o : Observer} (ho : o.IsOrderly) {s bare : State}
    (h : s.Shadows bare) (signal : Signal)
    (hentry : ∀ c steps, s.courses[signal.index]? = some c → c.phase = .waiting steps →
      ∀ cause, (own signal.index (s.step (some o) signal).1).head? ≠
        some (.clock (.fails cause))) :
    (s.step (some o) signal).1.filter (fun e => !e.2.isObservers) = (bare.step none signal).1 ∧
      (s.step (some o) signal).2.Shadows (bare.step none signal).2 := by
  obtain ⟨hlength, hcourses⟩ := h
  cases hc : s.courses[signal.index]? with
  | none =>
      have hd : bare.courses[signal.index]? = none := by
        rw [List.getElem?_eq_none_iff] at hc ⊢
        omega
      rw [step_of_none hc, step_of_none hd]
      exact ⟨rfl, hlength, hcourses⟩
  | some c =>
      have hlt : signal.index < bare.courses.length := by
        rw [← hlength]
        exact (List.getElem?_eq_some_iff.mp hc).1
      have hd : bare.courses[signal.index]? = some bare.courses[signal.index] :=
        List.getElem?_eq_getElem hlt
      obtain ⟨hevents, hcourse⟩ := (hcourses hc hd).take ho signal.command s.reads bare.reads
        fun steps hphase cause => by
          rw [← (own_step_self _ hc).1]
          exact hentry c steps hc hphase cause
      rw [step_of_eq hc, step_of_eq hd, filter_map_eq_map_outside, hevents]
      refine ⟨rfl, by simpa using hlength, ?_⟩
      intro j c' d' hc' hd'
      by_cases hj : signal.index = j
      · subst hj
        rw [List.getElem?_set_self (by omega)] at hc' hd'
        obtain rfl := Option.some.inj hc'
        obtain rfl := Option.some.inj hd'
        exact hcourse
      · rw [List.getElem?_set_ne hj] at hc' hd'
        exact hcourses hc' hd'

/-- What one signal leaves alike, a run does: an exchange that has begun does not
begin again, so what is asked about its first event is asked once. -/
theorem State.Shadows.run {o : Observer} (ho : o.IsOrderly) (signals : List Signal) :
    ∀ {s bare : State}, s.Shadows bare →
      (∀ i c steps, s.courses[i]? = some c → c.phase = .waiting steps →
        ∀ cause, (own i (s.run (some o) signals)).head? ≠ some (.clock (.fails cause))) →
      (s.run (some o) signals).filter (fun e => !e.2.isObservers) = bare.run none signals := by
  induction signals with
  | nil => intro s bare _ _; rfl
  | cons signal rest ih =>
      intro s bare h hentry
      simp only [State.run, own_append] at hentry ⊢
      have hstep := h.step ho signal fun c steps hc hphase cause hhead =>
        hentry signal.index c steps hc hphase cause (by rw [List.head?_append, hhead]; rfl)
      rw [List.filter_append, hstep.1, ih hstep.2]
      intro i c steps hc hphase cause
      by_cases hi : signal.index = i
      · subst hi
        cases hd : s.courses[signal.index]? with
        | none =>
            rw [step_of_none hd] at hc
            exact absurd (hc.symm.trans hd) (Option.some_ne_none _)
        | some d =>
            rw [(own_step_self _ hd).2] at hc
            obtain rfl := Option.some.inj hc
            exact absurd hphase (Course.phase_take_ne_waiting _ _ _ _ _ _)
      · obtain ⟨hown, hcourse⟩ := own_step_of_ne (some o) s hi
        have hfirst := hentry i c steps (hcourse ▸ hc) hphase cause
        rwa [hown, List.nil_append] at hfirst

/-- **Transparency.** Without the observer's own events, an observed run is the
run of the same applications bare on the same host, under the same schedule: the
same messages reach the host, the same failures reach the applications, and the
exchanges pause and end alike. -/
theorem filter_trace_eq_trace_none {o : Observer} (ho : o.IsOrderly) {courses : List Course}
    (hcourses : ∀ c ∈ courses, ∃ scope steps failing, c = .ofScript scope steps failing ∧
      IsServed scope ∧ ∀ step ∈ steps, step.act.IsTyped)
    (schedule : List Signal)
    (hentry : ∀ i < courses.length, ∀ cause,
      (own i (trace (some o) courses schedule)).head? ≠ some (.clock (.fails cause))) :
    (trace (some o) courses schedule).filter (fun e => !e.2.isObservers) =
      trace none courses schedule := by
  refine State.Shadows.run ho _ ⟨rfl, ?_⟩ ?_
  · intro i c d hc hd
    obtain rfl := Option.some.inj (hc.symm.trans hd)
    obtain ⟨scope, steps, failing, rfl, hserved, htyped⟩ :=
      hcourses c (List.mem_of_getElem? hc)
    exact ⟨rfl, rfl, ⟨rfl, rfl, by rintro _ ⟨⟩, rfl⟩, htyped, by rintro _ ⟨⟩; exact hserved⟩
  · intro i c steps hc hphase cause
    exact hentry i (List.getElem?_eq_some_iff.mp hc).1 cause

/-- An observer that nobody is satisfied with. -/
def Observer.grumbling : Observer where
  template := Template.parse ":method :url :status"
  blacklist := [.text "/health"]
  clock := Clock.ofReadings
    [.tick (.int 0), .tick (.int 5), .tick (.int 7), .tick (.int 9), .fails (.raised .os "stopped")]
  callback := some fun _ _ => some (.raised .value "no")
  sink := fun _ _ => some (.raised .os "full")

/-- Two exchanges: one fails to send its body at first, and the other is
cancelled while its observer's clock has stopped. -/
def troubledCourses : List Course :=
  [.ofScript sampleScope [⟨.send (sampleStart 200), false⟩, ⟨.pause, false⟩,
      ⟨.send sampleBody, true⟩, ⟨.send sampleBody, false⟩] [1],
    .ofScript sampleScope [⟨.pause, false⟩, ⟨.receive, false⟩] []]

/-- In which the two take their turns. -/
def troubledSchedule : List Signal := [⟨0, .resume⟩, ⟨1, .resume⟩, ⟨0, .resume⟩, ⟨1, .cancel⟩]

theorem isOrderly_grumbling : Observer.grumbling.IsOrderly where
  clock n cause h := by
    have hreading : ∀ n, (∃ tick, Observer.grumbling.clock n = .tick tick) ∨
        Observer.grumbling.clock n = .fails (.raised .os "stopped") := by
      rintro (_ | _ | _ | _ | _ | n)
      iterate 4 exact Or.inl ⟨_, rfl⟩
      iterate 2 exact Or.inr rfl
    rcases hreading n with ⟨tick, hn⟩ | hn <;> rw [hn] at h <;> cases h
    rfl
  callback := by
    rintro _ ⟨⟩ i tokens cause ⟨⟩
    rfl
  sink := by
    rintro i line cause ⟨⟩
    rfl

theorem isServed_sampleScope : IsServed sampleScope where
  type := ⟨_, rfl⟩
  path := by rintro v ⟨⟩; exact ⟨_, rfl⟩
  rootPath := by rintro v ⟨⟩
  client := Or.inr (show [_, _] ≠ [] from List.cons_ne_nil _ _)

theorem filter_trace_grumbling_eq :
    (trace (some .grumbling) troubledCourses troubledSchedule).filter
        (fun e => !e.2.isObservers) = trace none troubledCourses troubledSchedule := by
  refine filter_trace_eq_trace_none isOrderly_grumbling ?_ troubledSchedule ?_
  · rintro c (_ | ⟨_, _ | ⟨_, ⟨⟩⟩⟩)
    · refine ⟨_, _, _, rfl, isServed_sampleScope, ?_⟩
      simp [Act.IsTyped, sampleStart, sampleBody, Table.get?]
    · refine ⟨_, _, _, rfl, isServed_sampleScope, ?_⟩
      simp [Act.IsTyped]
  · intro i hi cause hhead
    have hfirst : ∀ i < troubledCourses.length,
        (own i (trace (some .grumbling) troubledCourses troubledSchedule)).head? =
          some (.clock (.tick (.int (if i = 0 then 0 else 7)))) := by decide
    rw [hfirst i hi] at hhead
    cases hhead

end AccessLog.Gateway
