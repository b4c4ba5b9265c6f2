import AccessLog.Proofs.Endings

/-!
# Exchanges that are passed over

An observer leaves an exchange alone when it is not an http exchange, or when its requested
path is on the blacklist. Such an exchange is the bare one, event for event, and nothing of
the observer happens in it, whatever its application sends, raises or writes into its scope;
any other exchange begins with a read of the clock (`isBare_iff_isExempt`). The type, the
path and the root path of the entry decide which of the two it is, and nothing else does.

A bare exchange never looks at the clock, so its events are a function of its own commands
(`Course.runBare`). With an observer and without one, an exchange that is passed over comes
to the same function of the same commands (`own_trace_of_spares`).
-/

namespace AccessLog.Gateway

/-! ## Bare turns -/

section Bare

variable {i : Nat} {failing : List Nat}

theorem mirrors_proceed_bare (steps : List AppStep) :
    Mirrors (proceed none i failing steps) (proceed none i failing steps) := by
  have hadvance : Mirrors (advance (sendOf none i failing) steps)
      (advance (sendOf none i failing) steps) :=
    mirrors_advance fun _ _ message _ => Observer.mirrors_hostSend failing message
  refine hadvance.attempt.bind fun result => ?_
  match result with
  | .ok (.paused rest) => exact mirrors_pure _
  | .ok .returned => exact (mirrors_pure ()).bind fun _ => mirrors_pure _
  | .error cause => exact (mirrors_pure ()).bind fun _ => mirrors_fail cause

theorem mirrors_begin_bare (steps : List AppStep) :
    Mirrors (begin none i failing steps) (begin none i failing steps) := by
  rw [begin_eq]
  refine (mirrors_pure ()).bind fun _ => ?_
  intro reads reads' l bare hl
  rw [Activity.live_bind_apply, Activity.live_bind_apply, hl.scope]
  exact ((mirrors_leave rfl).bind fun _ => mirrors_proceed_bare steps) reads reads' hl

theorem mirrors_interrupt_bare : Mirrors (interrupt none i) (interrupt none i) :=
  (mirrors_pure ()).bind fun _ => mirrors_fail .cancelled

theorem mirrors_turn?_bare {c : Course} {command : Command} {x : Activity Progress}
    (hx : c.turn? none i command = some x) : Mirrors x x := by
  cases Course.takes_of_turn? hx with
  | begins steps => exact mirrors_begin_bare steps
  | calledOff => exact mirrors_fail .cancelled
  | proceeds rest => exact mirrors_proceed_bare rest
  | interrupted => exact mirrors_interrupt_bare

end Bare

/-- Nothing of an observer happens. -/
def Unobserved (events : List Event) : Prop := ∀ e ∈ events, e.isObservers = false

theorem unobserved_iff_outside {events : List Event} :
    Unobserved events ↔ outside events = events := by
  simp [Unobserved, outside, List.filter_eq_self]

/-- An activity that mirrors itself neither looks at the clock nor observes anything. -/
theorem Mirrors.self_apply {α : Type} {x : Activity α} (h : Mirrors x x) {l : Live}
    (hl : l.capture = none) (reads reads' : Nat) :
    Unobserved (x reads l).events ∧ (x reads l).live.capture = none ∧
      ((x reads l).events, (x reads l).result, (x reads l).live) =
        ((x reads' l).events, (x reads' l).result, (x reads' l).live) := by
  have hself : l.Shadows l := ⟨rfl, rfl, by simp [hl], hl⟩
  have hto := h reads reads' hself
  have hback := h reads' reads hself
  -- Each list is what the other one is outside, and to be outside twice is to be it once.
  have hoff : outside (x reads' l).events = (x reads' l).events := by
    rw [← hto.events]
    simp [outside]
  have hevents : (x reads l).events = (x reads' l).events := hback.events.symm.trans hoff
  have hcapture := hback.live.uncaptured
  refine ⟨unobserved_iff_outside.mpr (by rw [hevents, hoff]), hcapture, ?_⟩
  rw [hevents, hto.result]
  have hlive : (x reads l).live = (x reads' l).live := by
    have hscope := hto.live.scope
    have hsends := hto.live.sends
    have hcapture' := hcapture.trans hto.live.uncaptured.symm
    generalize (x reads l).live = p at *
    generalize (x reads' l).live = q at *
    cases p
    cases q
    simp_all
  rw [hlive]

/-- A bare turn is the same wherever the clock stands. -/
theorem Course.take_bare (i : Nat) {c : Course} (hc : c.live.capture = none) (command : Command)
    (reads reads' : Nat) :
    Unobserved (c.take none i reads command).events ∧
      (c.take none i reads command).course.live.capture = none ∧
      (c.take none i reads command).events = (c.take none i reads' command).events ∧
      (c.take none i reads command).course = (c.take none i reads' command).course := by
  cases hx : c.turn? none i command with
  | none =>
      rw [take_of_none hx, take_of_none hx]
      exact ⟨by simp [Unobserved], hc, rfl, rfl⟩
  | some x =>
      obtain ⟨hevents, hcapture, hsame⟩ := (mirrors_turn?_bare hx).self_apply hc reads reads'
      obtain ⟨hsameEvents, hresult, hlive⟩ : _ ∧ _ ∧ _ := by simpa using hsame
      have hend : Unobserved [Progress.event (x reads c.live).result] :=
        unobserved_iff_outside.mpr (outside_event _)
      rw [take_of_some hx, take_of_some hx]
      refine ⟨List.forall_mem_append.mpr ⟨hevents, hend⟩, hcapture, ?_, ?_⟩
      · simp only [hsameEvents, hresult]
      · simp only [afterTurn, hresult, hlive]

/-! ## Turns that are passed over -/

/-- Whoever observes, the exchange is not captured, and it is passed over if it is still
to begin. -/
structure Spares (observer : Option Observer) (c : Course) : Prop where
  uncaptured : c.live.capture = none
  passedOver : ∀ steps, c.phase = .waiting steps → ∀ o, observer = some o →
    o.isPassedOver c.live.scope = .ok true

section PassedOver

variable {o : Observer} {i : Nat} {failing : List Nat}

theorem sendOf_of_uncaptured {l : Live} (hl : l.capture = none) (message : Table) (reads : Nat) :
    sendOf (some o) i failing message reads l = sendOf none i failing message reads l := by
  unfold sendOf
  rw [Activity.live_bind_apply, Activity.live_bind_apply]
  simp only [hl]

/-- Where no capture has been started, an observer changes nothing. -/
theorem proceed_of_uncaptured {l : Live} (hl : l.capture = none) (steps : List AppStep)
    (reads : Nat) :
    proceed (some o) i failing steps reads l = proceed none i failing steps reads l := by
  have hstart : Unwatched [] l := ⟨by simp [Quiet], hl⟩
  have hadvance : advance (sendOf (some o) i failing) steps reads l =
      advance (sendOf none i failing) steps reads l :=
    advance_congr (kept_unwatched o i failing)
      (fun h message reads => sendOf_of_uncaptured h.2 message reads) steps reads hstart
  have hend := ((kept_unwatched o i failing).advance steps).always [] reads l hstart
  refine Activity.bind_congr (Activity.attempt_congr hadvance) fun result => ?_
  have hfinish : ∀ reads', finishOf (some o) i reads'
      (advance (sendOf (some o) i failing) steps reads l).live =
        finishOf none i reads' (advance (sendOf (some o) i failing) steps reads l).live :=
    fun reads' => o.finish_of_finished i (by simp [hend.2]) reads'
  cases result with
  | ok progress =>
      cases progress with
      | paused rest => rfl
      | returned => exact Activity.bind_congr (hfinish _) fun _ => rfl
  | error cause => exact Activity.bind_congr (hfinish _) fun _ => rfl

theorem begin_of_passedOver {l : Live} (hl : l.capture = none)
    (hpassed : o.isPassedOver l.scope = .ok true) (steps : List AppStep) (reads : Nat) :
    begin (some o) i failing steps reads l = begin none i failing steps reads l := by
  have hbefore : beforeEntry (some o) reads l = beforeEntry none reads l := by
    rw [beforeEntry, o.beginCapture_apply, hpassed]
    rfl
  rw [begin_eq, begin_eq]
  refine Activity.bind_congr hbefore fun _ => ?_
  rw [hbefore]
  show (Activity.live >>= _) reads l = (Activity.live >>= _) reads l
  rw [Activity.live_bind_apply, Activity.live_bind_apply, Activity.leave_bind_apply,
    Activity.leave_bind_apply, proceed_of_uncaptured hl]

theorem Spares.take_eq {c : Course} (h : Spares (some o) c) (reads : Nat) (command : Command) :
    c.take (some o) i reads command = c.take none i reads command := by
  have hturn : ∀ {x y : Activity Progress}, c.turn? (some o) i command = some x →
      c.turn? none i command = some y → x reads c.live = y reads c.live →
      c.take (some o) i reads command = c.take none i reads command := by
    intro x y hx hy hxy
    rw [Course.take_of_some hx, Course.take_of_some hy, hxy]
  cases hphase : c.phase with
  | ended =>
      rw [Course.take_of_none (Course.turn?_of_ended hphase command),
        Course.take_of_none (Course.turn?_of_ended hphase command)]
  | waiting steps =>
      have hx := Course.turn?_of_waiting (some o) i hphase
      have hy := Course.turn?_of_waiting none i hphase
      cases command with
      | cancel => exact hturn hx.2 hy.2 rfl
      | resume =>
          have hpassed := h.passedOver steps hphase o rfl
          exact hturn hx.1 hy.1 (begin_of_passedOver h.uncaptured hpassed steps reads)
  | paused rest =>
      have hx := Course.turn?_of_paused (some o) i hphase
      have hy := Course.turn?_of_paused none i hphase
      cases command with
      | resume => exact hturn hx.1 hy.1 (proceed_of_uncaptured h.uncaptured rest reads)
      | cancel =>
          have hfinish := o.finish_of_finished i (l := c.live) (by simp [h.uncaptured])
          exact hturn hx.2 hy.2 (Activity.bind_congr (hfinish reads) fun _ => rfl)

end PassedOver

/-! ## Runs -/

/-- The bare exchange under these commands: its events, and what becomes of it. -/
def Course.runBare (c : Course) (commands : List Command) : List Event × Course :=
  commands.foldl (fun (events, c) command =>
    (events ++ (c.take none 0 0 command).events, (c.take none 0 0 command).course)) ([], c)

theorem Course.runBare_append (c : Course) (commands : List Command) (command : Command) :
    c.runBare (commands ++ [command]) =
      ((c.runBare commands).1 ++ ((c.runBare commands).2.take none 0 0 command).events,
        ((c.runBare commands).2.take none 0 0 command).course) := by
  simp [runBare, List.foldl_append]

/-- Whoever observes, a turn that is passed over is the bare one. -/
theorem Spares.take {observer : Option Observer} {c : Course} (h : Spares observer c) (i : Nat)
    (reads : Nat) (command : Command) :
    Unobserved (c.take none 0 0 command).events ∧
      (c.take observer i reads command).events = (c.take none 0 0 command).events ∧
      (c.take observer i reads command).course = (c.take none 0 0 command).course ∧
      Spares observer (c.take none 0 0 command).course := by
  have hbare : c.take observer i reads command = c.take none i reads command := by
    cases observer with
    | none => rfl
    | some o => exact h.take_eq reads command
  obtain ⟨hunobserved, hcapture, -, -⟩ := Course.take_bare 0 h.uncaptured command 0 0
  obtain ⟨-, -, hevents, hcourse⟩ := Course.take_bare i h.uncaptured command reads 0
  have hphase := Course.phase_take_ne_waiting none 0 c 0 command
  rw [hbare]
  exact ⟨hunobserved, hevents, hcourse, hcapture,
    fun steps hwaiting => absurd hwaiting (hphase steps)⟩

/-- So far the exchange has gone as its commands make it go bare. -/
structure RunsBare (observer : Option Observer) (c : Course) (commands : List Command)
    (events : List Event) (c' : Course) : Prop where
  bare : c.runBare commands = (events, c')
  spares : Spares observer c'
  unobserved : Unobserved events

theorem RunsBare.take {observer : Option Observer} {c : Course} {commands : List Command}
    {events : List Event} {c' : Course} (h : RunsBare observer c commands events c') (i : Nat)
    (reads : Nat) (command : Command) :
    RunsBare observer c (commands ++ [command])
      (events ++ (c'.take observer i reads command).events)
      (c'.take observer i reads command).course := by
  obtain ⟨hunobserved, hevents, hcourse, hspares⟩ := h.spares.take i reads command
  rw [hevents, hcourse]
  exact ⟨by rw [Course.runBare_append, h.bare], hspares,
    List.forall_mem_append.mpr ⟨h.unobserved, hunobserved⟩⟩

theorem own_trace_of_spares {observer : Option Observer} {courses : List Course} {i : Nat}
    {c : Course} (hc : courses[i]? = some c) (h : Spares observer c) (schedule : List Signal) :
    Unobserved (own i (trace observer courses schedule)) ∧
      own i (trace observer courses schedule) =
        (c.runBare (commandsFor i (schedule ++ completion courses))).1 := by
  obtain ⟨c', -, hrun⟩ := State.run_follows observer i (RunsBare observer c)
    (fun _ _ _ reads command hrun => hrun.take i reads command)
    (schedule ++ completion courses) ⟨0, courses⟩ [] hc ⟨rfl, h, by simp [Unobserved]⟩
  rw [List.nil_append, List.nil_append] at hrun
  exact ⟨hrun.unobserved, by rw [hrun.bare]; rfl⟩

/-- So far the exchange still waits, or its events go on from those of its first turn, and
do not go on if that turn has ended it. -/
inductive OpensWithTurn (observer : Option Observer) (i : Nat) (c : Course) :
    List Command → List Event → Course → Prop
  | waiting : OpensWithTurn observer i c [] [] c
  | opened {commands : List Command} {c' : Course} (first : Command) (reads : Nat)
      (more : List Event) (hfirst : commands.head? = some first)
      (hends : (c.take observer i reads first).course.phase = .ended →
        c'.phase = .ended ∧ more = []) :
      OpensWithTurn observer i c commands ((c.take observer i reads first).events ++ more) c'

theorem OpensWithTurn.take {observer : Option Observer} {i : Nat} {c : Course}
    {commands : List Command} {events : List Event} {c' : Course}
    (h : OpensWithTurn observer i c commands events c') (reads : Nat) (command : Command) :
    OpensWithTurn observer i c (commands ++ [command])
      (events ++ (c'.take observer i reads command).events)
      (c'.take observer i reads command).course := by
  cases h with
  | waiting =>
      rw [List.nil_append, ← List.append_nil (c.take observer i reads command).events]
      exact .opened command reads [] rfl fun hphase => ⟨hphase, rfl⟩
  | opened first reads' more hfirst hends =>
      rw [List.append_assoc]
      refine .opened first reads' _ ?_ fun hphase => ?_
      · rw [List.head?_append, hfirst]
        rfl
      · obtain ⟨hended, rfl⟩ := hends hphase
        rw [Course.take_of_none (Course.turn?_of_ended hended command)]
        exact ⟨hended, rfl⟩

theorem own_trace_opens (observer : Option Observer) {courses : List Course} {i : Nat}
    {c : Course} (hc : courses[i]? = some c) (schedule : List Signal) {command : Command}
    (hcommand : (commandsFor i (schedule ++ completion courses)).head? = some command) :
    ∃ reads more, own i (trace observer courses schedule) =
        (c.take observer i reads command).events ++ more ∧
      ((c.take observer i reads command).course.phase = .ended → more = []) := by
  obtain ⟨c', -, hopens⟩ := State.run_follows observer i (OpensWithTurn observer i c)
    (fun _ _ _ reads command h => h.take reads command)
    (schedule ++ completion courses) ⟨0, courses⟩ [] hc .waiting
  rw [List.nil_append, List.nil_append] at hopens
  rw [trace]
  generalize own i (State.run observer ⟨0, courses⟩ (schedule ++ completion courses)) = events
    at hopens ⊢
  generalize commandsFor i (schedule ++ completion courses) = commands at hopens hcommand
  cases hopens with
  | waiting => cases hcommand
  | opened command' reads more hcommand' hends =>
      obtain rfl := Option.some.inj (hcommand'.symm.trans hcommand)
      exact ⟨reads, more, rfl, fun hphase => (hends hphase).2⟩

theorem head?_own_trace (observer : Option Observer) {courses : List Course} {i : Nat}
    {c : Course} (hc : courses[i]? = some c) (schedule : List Signal) {command : Command}
    (hcommand : (commandsFor i (schedule ++ completion courses)).head? = some command)
    {first : Nat → Event}
    (hfirst : ∀ reads, (c.take observer i reads command).events.head? = some (first reads)) :
    ∃ reads, (own i (trace observer courses schedule)).head? = some (first reads) := by
  obtain ⟨reads, more, htrace, -⟩ := own_trace_opens observer hc schedule hcommand
  exact ⟨reads, by rw [htrace, List.head?_append, hfirst reads]; rfl⟩

/-! ## Which exchanges are passed over -/

/-- The path and the root path are texts, as far as they are there. -/
structure HasTextPaths (scope : Table) : Prop where
  path : ∀ v, scope.get? "path" = some v → ∃ s, v = .text s
  rootPath : ∀ v, scope.get? "root_path" = some v → ∃ s, v = .text s

/-- The scope is not of an http exchange, or its requested path is on the blacklist. -/
def IsExempt (blacklist : List Value) (scope : Table) : Prop :=
  ∃ type, scope.get? "type" = some type ∧
    (type ≠ .text "http" ∨ ∃ path, requestedPath scope = .ok path ∧ path ∈ blacklist)

theorem isExempt_congr {blacklist : List Value} {scope scope' : Table}
    (htype : scope'.get? "type" = scope.get? "type")
    (hpath : scope'.get? "path" = scope.get? "path")
    (hroot : scope'.get? "root_path" = scope.get? "root_path") :
    IsExempt blacklist scope' ↔ IsExempt blacklist scope := by
  have hpath' : scope'.get "path" = scope.get "path" := by rw [Table.get, hpath, Table.get]
  have hroot' : scope'.get "root_path" = scope.get "root_path" := by
    rw [Table.get, hroot, Table.get]
  have hrequested : requestedPath scope' = requestedPath scope := by
    rw [requestedPath, hpath', hroot', requestedPath]
  rw [IsExempt, IsExempt, htype, hrequested]

namespace Observer

variable {o : Observer} {scope : Table}

theorem isPassedOver_of_missing (h : scope.get? "type" = none) :
    o.isPassedOver scope = .error .missingKey := by
  simp [isPassedOver, Table.demand, h, bind, Except.bind]

theorem isPassedOver_of_ne {type : Value} (htype : scope.get? "type" = some type)
    (hne : type ≠ .text "http") : o.isPassedOver scope = .ok true := by
  simp [isPassedOver, Table.demand, htype, hne, bind, Except.bind, pure, Except.pure]

theorem isPassedOver_of_http {path : String} (htype : scope.get? "type" = some (.text "http"))
    (hpath : requestedPath scope = .ok (.text path)) :
    o.isPassedOver scope = .ok (decide (.text path ∈ o.blacklist)) := by
  have hamong : (Value.text path).isAmong o.blacklist = decide (.text path ∈ o.blacklist) := by
    rw [Bool.eq_iff_iff, decide_eq_true_iff, Value.text_isAmong_iff]
  simp [isPassedOver, Table.demand, htype, hpath, hamong, Value.isHashable, bind, Except.bind,
    pure, Except.pure]

theorem isPassedOver_eq_true_iff (h : HasTextPaths scope) :
    o.isPassedOver scope = .ok true ↔ IsExempt o.blacklist scope := by
  obtain ⟨p, hp⟩ := orElse_of_texts h.path
  obtain ⟨r, hr⟩ := orElse_of_texts h.rootPath
  have hpath := requestedPath_of_texts hp hr
  cases htype : scope.get? "type" with
  | none => simp [isPassedOver_of_missing htype, IsExempt, htype]
  | some type =>
      by_cases hne : type = .text "http"
      · subst hne
        simp [isPassedOver_of_http htype hpath, IsExempt, htype, hpath]
      · simp [isPassedOver_of_ne htype hne, IsExempt, htype, hne]

/-- Whether an exchange is passed over can be told from a scope with a type. -/
theorem isPassedOver_eq_false (h : HasTextPaths scope) {type : Value}
    (htype : scope.get? "type" = some type) (hexempt : ¬IsExempt o.blacklist scope) :
    o.isPassedOver scope = .ok false := by
  obtain ⟨p, hp⟩ := orElse_of_texts h.path
  obtain ⟨r, hr⟩ := orElse_of_texts h.rootPath
  have hnot : o.isPassedOver scope ≠ .ok true := fun h' =>
    hexempt ((isPassedOver_eq_true_iff h).mp h')
  by_cases hne : type = .text "http"
  · subst hne
    have hpath := requestedPath_of_texts hp hr
    rw [isPassedOver_of_http htype hpath] at hnot ⊢
    simpa using hnot
  · exact absurd (isPassedOver_of_ne htype hne) hnot

end Observer

/-! ## Where the two part -/

section FirstTurn

variable {o : Observer} {i : Nat} {scope : Table} {steps : List AppStep} {failing : List Nat}

theorem take_ofScript (observer : Option Observer) (reads : Nat) :
    ((Course.ofScript scope steps failing).take observer i reads .resume).events =
      (begin observer i failing steps reads ⟨scope, 0, none⟩).events ++
        [Progress.event (begin observer i failing steps reads ⟨scope, 0, none⟩).result] :=
  rfl

/-- The clock is read before anything else happens in an exchange that is observed. -/
theorem head?_take_of_observed (h : o.isPassedOver scope = .ok false) (reads : Nat) :
    ((Course.ofScript scope steps failing).take (some o) i reads .resume).events.head? =
      some (.clock (o.clock reads)) := by
  have hbegin := o.beginCapture_apply reads ⟨scope, 0, none⟩
  rw [h] at hbegin
  have hhead : (begin (some o) i failing steps reads ⟨scope, 0, none⟩).events.head? =
      some (.clock (o.clock reads)) := by
    rw [begin_eq, beforeEntry]
    cases hr : o.clock reads with
    | fails cause =>
        rw [hr] at hbegin
        rw [Activity.bind_apply_of_error (by rw [hbegin]), hbegin]
        rfl
    | tick tick =>
        rw [hr] at hbegin
        cases hhost : KeptHost.ofScope scope with
        | error cause =>
            rw [hhost] at hbegin
            rw [Activity.bind_apply_of_error (by rw [hbegin]), hbegin]
            rfl
        | ok host =>
            rw [hhost] at hbegin
            rw [Activity.bind_apply_of_ok (by rw [hbegin]), hbegin]
            rfl
  rw [take_ofScript, List.head?_append, hhead]
  rfl

/-- Without a type, the first turn fails before anything else happens. -/
theorem take_of_missing (h : scope.get? "type" = none) (reads : Nat) :
    (Course.ofScript scope steps failing).take (some o) i reads .resume =
      ⟨[.done (some (.fault .missingKey))], reads,
        { Course.ofScript scope steps failing with phase := .ended }⟩ := by
  have hbegin := o.beginCapture_apply reads (Course.ofScript scope steps failing).live
  rw [show o.isPassedOver (Course.ofScript scope steps failing).live.scope = _ from
    Observer.isPassedOver_of_missing h] at hbegin
  have hturn := Course.turn?_of_waiting (some o) i
    (show (Course.ofScript scope steps failing).phase = .waiting steps from rfl)
  rw [Course.take_of_some hturn.1, begin_eq, beforeEntry,
    Activity.bind_apply_of_error (by rw [hbegin]), hbegin]
  rfl

theorem head?_take_bare (reads : Nat) :
    ((Course.ofScript scope steps failing).take none i reads .resume).events.head? =
      some (.entered (scope.get "type")) := by
  rw [take_ofScript, begin_eq]
  rfl

end FirstTurn

/-! ## Exactness -/

/-- In the whole run nothing of the observer happens in exchange `i`, which goes as it does
when nobody observes. -/
def IsBare (o : Observer) (courses : List Course) (schedule : List Signal) (i : Nat) : Prop :=
  Unobserved (own i (trace (some o) courses schedule)) ∧
    own i (trace (some o) courses schedule) = own i (trace none courses schedule)

/-- The exchange is resumed before it is cancelled. -/
def IsStarted (courses : List Course) (schedule : List Signal) (i : Nat) : Prop :=
  (commandsFor i (schedule ++ completion courses)).head? = some .resume

section Exactness

variable {o : Observer} {courses : List Course} {schedule : List Signal} {i : Nat} {scope : Table}
  {steps : List AppStep} {failing : List Nat}

theorem isBare_of_isExempt (hc : courses[i]? = some (.ofScript scope steps failing))
    (hpaths : HasTextPaths scope) (hexempt : IsExempt o.blacklist scope) :
    IsBare o courses schedule i := by
  have hobserved : Spares (some o) (.ofScript scope steps failing) := by
    refine ⟨rfl, ?_⟩
    rintro _ - _ ⟨⟩
    exact (Observer.isPassedOver_eq_true_iff hpaths).mpr hexempt
  have hbare : Spares none (.ofScript scope steps failing) := ⟨rfl, by rintro _ - _ ⟨⟩⟩
  obtain ⟨hunobserved, hevents⟩ := own_trace_of_spares hc hobserved schedule
  exact ⟨hunobserved, hevents.trans (own_trace_of_spares hc hbare schedule).2.symm⟩

theorem head?_own_trace_of_not_isExempt
    (hc : courses[i]? = some (.ofScript scope steps failing)) (hpaths : HasTextPaths scope)
    (hstarted : IsStarted courses schedule i) {type : Value}
    (htype : scope.get? "type" = some type) (hexempt : ¬IsExempt o.blacklist scope) :
    ∃ reading, (own i (trace (some o) courses schedule)).head? = some (.clock reading) := by
  have hpassed := Observer.isPassedOver_eq_false hpaths htype hexempt
  obtain ⟨reads, hhead⟩ := head?_own_trace (some o) hc schedule hstarted
    (head?_take_of_observed hpassed)
  exact ⟨o.clock reads, hhead⟩

theorem own_trace_of_missing (hc : courses[i]? = some (.ofScript scope steps failing))
    (hstarted : IsStarted courses schedule i) (h : scope.get? "type" = none) :
    own i (trace (some o) courses schedule) = [.done (some (.fault .missingKey))] := by
  obtain ⟨reads, more, htrace, hends⟩ := own_trace_opens (some o) hc schedule hstarted
  rw [take_of_missing h] at htrace hends
  rw [htrace, hends rfl]
  rfl

theorem not_isBare_of_not_isExempt (hc : courses[i]? = some (.ofScript scope steps failing))
    (hpaths : HasTextPaths scope) (hstarted : IsStarted courses schedule i)
    (hexempt : ¬IsExempt o.blacklist scope) : ¬IsBare o courses schedule i := by
  rintro ⟨hunobserved, hevents⟩
  cases htype : scope.get? "type" with
  | some type =>
      obtain ⟨reading, hhead⟩ :=
        head?_own_trace_of_not_isExempt hc hpaths hstarted htype hexempt
      cases hunobserved _ (List.mem_of_head? hhead)
  | none =>
      -- Without a type the observer fails, while the bare application is entered.
      obtain ⟨-, hbare⟩ := head?_own_trace none hc schedule hstarted head?_take_bare
      rw [← hevents, own_trace_of_missing hc hstarted htype] at hbare
      cases hbare

theorem bare_iff_exempt (hc : courses[i]? = some (.ofScript scope steps failing))
    (hpaths : HasTextPaths scope) (hstarted : IsStarted courses schedule i) :
    IsBare o courses schedule i ↔ IsExempt o.blacklist scope := by
  refine ⟨fun hbare => ?_, isBare_of_isExempt hc hpaths⟩
  exact Classical.not_not.mp fun hexempt =>
    not_isBare_of_not_isExempt hc hpaths hstarted hexempt hbare

/-- **Passing over.** An exchange that is started is bare in its whole run if and only if its
entry is exempt. If it is not exempt, the clock is read before the application is entered; an
entry without a type comes to neither of them. It is the type, the path and the root path of
the entry that decide, whatever else the scope holds, whatever the application does and
whatever else runs. -/
theorem isBare_iff_isExempt (hc : courses[i]? = some (.ofScript scope steps failing))
    (hpaths : HasTextPaths scope) (hstarted : IsStarted courses schedule i) :
    (IsBare o courses schedule i ↔ IsExempt o.blacklist scope) ∧
      (¬IsExempt o.blacklist scope →
        (∃ reading, (own i (trace (some o) courses schedule)).head? = some (.clock reading)) ∨
          scope.get? "type" = none ∧
            own i (trace (some o) courses schedule) = [.done (some (.fault .missingKey))]) ∧
      ∀ (o' : Observer) (courses' : List Course) (schedule' : List Signal) (i' : Nat)
        (scope' : Table) (steps' : List AppStep) (failing' : List Nat),
        o'.blacklist = o.blacklist →
        courses'[i']? = some (.ofScript scope' steps' failing') →
        IsStarted courses' schedule' i' →
        (∀ name ∈ ["type", "path", "root_path"], scope'.get? name = scope.get? name) →
        (IsBare o' courses' schedule' i' ↔ IsBare o courses schedule i) := by
  have hexact : IsBare o courses schedule i ↔ IsExempt o.blacklist scope :=
    bare_iff_exempt hc hpaths hstarted
  refine ⟨hexact, fun hexempt => ?_, ?_⟩
  · cases htype : scope.get? "type" with
    | none => exact Or.inr ⟨rfl, own_trace_of_missing hc hstarted htype⟩
    | some type =>
        exact Or.inl (head?_own_trace_of_not_isExempt hc hpaths hstarted htype hexempt)
  intro o' courses' schedule' i' scope' steps' failing' hblacklist hc' hstarted' hsame
  have htype := hsame "type" (by simp)
  have hpath := hsame "path" (by simp)
  have hroot := hsame "root_path" (by simp)
  have hpaths' : HasTextPaths scope' := by
    constructor
    · rw [hpath]
      exact hpaths.path
    · rw [hroot]
      exact hpaths.rootPath
  calc IsBare o' courses' schedule' i'
      ↔ IsExempt o'.blacklist scope' := bare_iff_exempt hc' hpaths' hstarted'
    _ ↔ IsExempt o.blacklist scope := by rw [hblacklist, isExempt_congr htype hpath hroot]
    _ ↔ IsBare o courses schedule i := hexact.symm

end Exactness

/-- An observer of an application that is mounted under a root path. -/
def Observer.ofMounted : Observer := { Observer.grumbling with blacklist := [.text "/api/health"] }

/-- The scope of an http request for this path under the root path. -/
def mountedScope (path : String) : Table :=
  [(.text "type", .text "http"), (.text "path", .text path), (.text "root_path", .text "/api")]

/-- Two exchanges: one for the path on the blacklist, whose application changes the path and
fails to send at first, and one for a path that only begins like it. -/
def mountedCourses : List Course :=
  [.ofScript (mountedScope "/health") [⟨.assign [.text "path"] (.text "/other"), false⟩,
      ⟨.send (sampleStart 200), true⟩, ⟨.pause, false⟩, ⟨.send sampleBody, false⟩] [1],
    .ofScript (mountedScope "/healthy") [⟨.send (sampleStart 200), false⟩] []]

/-- The first exchange is cancelled when the second one has ended. -/
def mountedSchedule : List Signal := [⟨0, .resume⟩, ⟨1, .resume⟩, ⟨0, .cancel⟩]

theorem hasTextPaths_mountedScope (path : String) : HasTextPaths (mountedScope path) where
  path := by rintro v ⟨⟩; exact ⟨_, rfl⟩
  rootPath := by rintro v ⟨⟩; exact ⟨_, rfl⟩

theorem isBare_mounted :
    IsBare .ofMounted mountedCourses mountedSchedule 0 ∧
      ¬IsBare .ofMounted mountedCourses mountedSchedule 1 := by
  have hstarted : ∀ i < 2, IsStarted mountedCourses mountedSchedule i := by
    unfold IsStarted
    decide
  have hfirst : requestedPath (mountedScope "/health") = .ok (.text "/api/health") := rfl
  have hsecond : requestedPath (mountedScope "/healthy") = .ok (.text "/api/healthy") := rfl
  constructor
  · refine (isBare_iff_isExempt rfl (hasTextPaths_mountedScope "/health")
      (hstarted 0 (by decide))).1.mpr ?_
    exact ⟨_, rfl, Or.inr ⟨_, hfirst, by decide⟩⟩
  · intro hbare
    obtain ⟨_, ⟨⟩, hne | ⟨path, hpath, hmem⟩⟩ := (isBare_iff_isExempt rfl
      (hasTextPaths_mountedScope "/healthy") (hstarted 1 (by decide))).1.mp hbare
    · exact hne rfl
    · obtain rfl := Except.ok.inj (hsecond.symm.trans hpath)
      exact absurd hmem (by decide)

end AccessLog.Gateway
