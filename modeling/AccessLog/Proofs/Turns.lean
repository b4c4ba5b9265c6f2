import AccessLog.Proofs.Conduct

/-!
# The turns of one exchange

A schedule moves many exchanges, but each of them sees only its own turns. The
events of one exchange (`own`) are those of the turns that it takes, and no turn
of another exchange changes it (`own_step_of_ne`). What every turn keeps therefore
holds after a whole run (`run_keeps`), whatever the other exchanges do in between.

A turn that is resumed either ends the exchange or uses up a step of it, so the
signals of `completion` are enough for every exchange to end
(`phase_after_completion`).
-/

namespace AccessLog.Gateway

/-! ## What belongs to one exchange -/

/-- The events of exchange `i`, in order. -/
def own (i : Nat) (events : List Tagged) : List Event :=
  (events.filter fun e => e.1 == i).map Prod.snd

/-- The commands to exchange `i`, in order. -/
def commandsFor (i : Nat) (signals : List Signal) : List Command :=
  (signals.filter fun s => s.index == i).map Signal.command

theorem own_cons (i : Nat) (e : Tagged) (rest : List Tagged) :
    own i (e :: rest) = if e.1 = i then e.2 :: own i rest else own i rest := by
  by_cases hi : e.1 = i <;> simp [own, hi]

theorem own_append (i : Nat) (events more : List Tagged) :
    own i (events ++ more) = own i events ++ own i more := by
  simp [own]

theorem own_map_self (i : Nat) (events : List Event) : own i (events.map (i, ·)) = events := by
  induction events with
  | nil => rfl
  | cons e rest ih => simpa [own] using ih

theorem own_map_of_ne {i j : Nat} (h : j ≠ i) (events : List Event) :
    own i (events.map (j, ·)) = [] := by
  induction events with
  | nil => rfl
  | cons e rest ih => simp [own, h]

/-! ## One signal -/

namespace State

variable {observer : Option Observer} {s : State} {signal : Signal} {i : Nat} {c : Course}

/-- A signal makes its exchange take a turn. -/
theorem step_of_eq (h : s.courses[signal.index]? = some c) :
    s.step observer signal =
      ((c.take observer signal.index s.reads signal.command).events.map (signal.index, ·),
        ⟨(c.take observer signal.index s.reads signal.command).reads,
          s.courses.set signal.index
            (c.take observer signal.index s.reads signal.command).course⟩) := by
  simp only [step, h]

/-- A signal to nobody does nothing. -/
theorem step_of_none (h : s.courses[signal.index]? = none) :
    s.step observer signal = ([], s) := by
  simp only [step, h]

/-- A signal to an exchange adds the events of its turn. -/
theorem own_step_self (observer : Option Observer) (h : s.courses[signal.index]? = some c) :
    own signal.index (s.step observer signal).1 =
        (c.take observer signal.index s.reads signal.command).events ∧
      (s.step observer signal).2.courses[signal.index]? =
        some (c.take observer signal.index s.reads signal.command).course := by
  obtain ⟨hlt, -⟩ := List.getElem?_eq_some_iff.mp h
  rw [step_of_eq h]
  exact ⟨own_map_self .., by simp [hlt]⟩

/-- A signal to another exchange leaves exchange `i` as it is. -/
theorem own_step_of_ne (observer : Option Observer) (s : State) (h : signal.index ≠ i) :
    own i (s.step observer signal).1 = [] ∧
      (s.step observer signal).2.courses[i]? = s.courses[i]? := by
  cases hc : s.courses[signal.index]? with
  | none =>
      rw [step_of_none hc]
      exact ⟨rfl, rfl⟩
  | some c =>
      rw [step_of_eq hc]
      exact ⟨own_map_of_ne h _, by simp [h]⟩

/-! ## Whole runs -/

/-- The exchanges and the clock after signals. -/
def after (observer : Option Observer) (s : State) : List Signal → State
  | [] => s
  | signal :: rest => after observer (s.step observer signal).2 rest

/-- Events of a run belong to its exchanges. -/
theorem index_lt_of_mem_run (observer : Option Observer) (signals : List Signal) :
    ∀ (s : State), ∀ e ∈ s.run observer signals, e.1 < s.courses.length := by
  induction signals with
  | nil => exact fun s e he => nomatch he
  | cons signal rest ih =>
      intro s e he
      rw [run] at he
      cases hc : s.courses[signal.index]? with
      | none =>
          rw [step_of_none hc] at he
          exact ih s e he
      | some c =>
          rw [step_of_eq hc] at he
          rcases List.mem_append.mp he with he | he
          · obtain ⟨e', -, rfl⟩ := List.mem_map.mp he
            exact (List.getElem?_eq_some_iff.mp hc).1
          · simpa using ih _ e he

/-- What every turn of exchange `i` keeps, of its commands and its events so far and of
what has become of it, holds after every run. -/
theorem run_follows (observer : Option Observer) (i : Nat)
    (Inv : List Command → List Event → Course → Prop)
    (htake : ∀ commands es c reads command, Inv commands es c →
      Inv (commands ++ [command]) (es ++ (c.take observer i reads command).events)
        (c.take observer i reads command).course) (signals : List Signal) :
    ∀ (s : State) (commands : List Command) {es : List Event} {c : Course},
      s.courses[i]? = some c → Inv commands es c →
      ∃ c', (s.after observer signals).courses[i]? = some c' ∧
        Inv (commands ++ commandsFor i signals) (es ++ own i (s.run observer signals)) c' := by
  induction signals with
  | nil =>
      intro s commands es c hc hinv
      exact ⟨c, hc, by simpa [run, own, commandsFor] using hinv⟩
  | cons signal rest ih =>
      intro s commands es c hc hinv
      simp only [run, own_append, ← List.append_assoc, after]
      by_cases hi : signal.index = i
      · subst hi
        obtain ⟨hown, hcourse⟩ := own_step_self observer hc
        have hcommands : commandsFor signal.index (signal :: rest) =
            [signal.command] ++ commandsFor signal.index rest := by
          simp [commandsFor]
        rw [hown, hcommands, ← List.append_assoc]
        exact ih _ _ hcourse (htake _ _ _ _ _ hinv)
      · obtain ⟨hown, hcourse⟩ := own_step_of_ne observer s hi
        have hcommands : commandsFor i (signal :: rest) = commandsFor i rest := by
          simp [commandsFor, hi]
        rw [hown, hcommands, List.append_nil]
        exact ih _ _ (hcourse.trans hc) hinv

/-- What every turn of exchange `i` keeps, of its events so far and of what has
become of it, holds after every run. -/
theorem run_keeps (observer : Option Observer) (i : Nat) (Inv : List Event → Course → Prop)
    (htake : ∀ es c reads command, Inv es c →
      Inv (es ++ (c.take observer i reads command).events)
        (c.take observer i reads command).course) (signals : List Signal)
    (s : State) {es : List Event} {c : Course} (hc : s.courses[i]? = some c) (hinv : Inv es c) :
    ∃ c', (s.after observer signals).courses[i]? = some c' ∧
      Inv (es ++ own i (s.run observer signals)) c' :=
  run_follows observer i (fun _ => Inv) (fun _ => htake) signals s [] hc hinv

end State

/-! ## How far a turn goes -/

/-- A pause leaves a strictly shorter end of the steps. -/
theorem suffix_of_advance {send : Send} :
    ∀ {steps rest : List AppStep} {reads : Nat} {l : Live},
      (advance send steps reads l).result = .ok (.paused rest) →
      rest <:+ steps ∧ rest.length < steps.length
  | [], rest, reads, l, h => by cases h
  | step :: steps, rest, reads, l, h => by
      rw [advance] at h
      split at h
      · obtain rfl : steps = rest := by simpa [Activity.pure_apply] using h
        exact ⟨List.suffix_cons .., Nat.lt_succ_self _⟩
      · obtain ⟨-, -, hrest⟩ := Activity.bind_result_eq_ok h
        obtain ⟨hsuffix, hlt⟩ := suffix_of_advance hrest
        exact ⟨hsuffix.trans (List.suffix_cons ..), Nat.lt_succ_of_lt hlt⟩

theorem advance_of_proceed {observer : Option Observer} {i : Nat} {failing : List Nat}
    {steps rest : List AppStep} {reads : Nat} {l : Live}
    (h : (proceed observer i failing steps reads l).result = .ok (.paused rest)) :
    (advance (sendOf observer i failing) steps reads l).result = .ok (.paused rest) := by
  rw [proceed, Activity.attempt_bind_apply] at h
  cases hr : (advance (sendOf observer i failing) steps reads l).result with
  | error cause =>
      simp only [hr] at h
      obtain ⟨-, -, hfail⟩ := Activity.bind_result_eq_ok h
      cases hfail
  | ok progress =>
      cases progress with
      | paused rest' => simpa [hr, Activity.pure_apply] using h
      | returned =>
          simp only [hr] at h
          obtain ⟨-, -, hreturn⟩ := Activity.bind_result_eq_ok h
          cases hreturn

/-- What an observer does before an application is entered. -/
def beforeEntry : Option Observer → Activity Unit
  | some o => o.beginCapture
  | none => pure ()

theorem begin_eq (observer : Option Observer) (i : Nat) (failing : List Nat)
    (steps : List AppStep) :
    begin observer i failing steps = (do
      beforeEntry observer
      Activity.leave (.entered ((← Activity.live).scope.get "type"))
      proceed observer i failing steps) := by
  cases observer with
  | none => simp [begin, beforeEntry]
  | some o => rfl

theorem advance_of_begin {observer : Option Observer} {i : Nat} {failing : List Nat}
    {steps rest : List AppStep} {reads : Nat} {l : Live}
    (h : (begin observer i failing steps reads l).result = .ok (.paused rest)) :
    ∃ reads' l', (advance (sendOf observer i failing) steps reads' l').result =
      .ok (.paused rest) := by
  rw [begin_eq] at h
  obtain ⟨-, -, h⟩ := Activity.bind_result_eq_ok h
  exact ⟨_, _, advance_of_proceed h⟩

namespace Course

/-- An exchange after a turn with this outcome. -/
def afterTurn (c : Course) (p : Outcome Progress) : Course :=
  { c with phase := Progress.phase p.result, live := p.live }

theorem take_of_none {observer : Option Observer} {i : Nat} {c : Course} {command : Command}
    (h : c.turn? observer i command = none) (reads : Nat) :
    c.take observer i reads command = ⟨[], reads, c⟩ := by
  simp only [take, h]

theorem take_of_some {observer : Option Observer} {i : Nat} {c : Course} {command : Command}
    {x : Activity Progress} (h : c.turn? observer i command = some x) (reads : Nat) :
    c.take observer i reads command =
      ⟨(x reads c.live).events ++ [Progress.event (x reads c.live).result],
        (x reads c.live).reads, c.afterTurn (x reads c.live)⟩ := by
  simp only [take, h]
  rfl

section Phases

variable {observer : Option Observer} {i : Nat} {c : Course} {steps : List AppStep}

theorem turn?_of_waiting (observer : Option Observer) (i : Nat) (h : c.phase = .waiting steps) :
    c.turn? observer i .resume = some (begin observer i c.failing steps) ∧
      c.turn? observer i .cancel = some (Activity.fail .cancelled) := by
  simp only [turn?, h, and_self]

theorem turn?_of_paused (observer : Option Observer) (i : Nat) (h : c.phase = .paused steps) :
    c.turn? observer i .resume = some (proceed observer i c.failing steps) ∧
      c.turn? observer i .cancel = some (interrupt observer i) := by
  simp only [turn?, h, and_self]

theorem turn?_of_ended (h : c.phase = .ended) (command : Command) :
    c.turn? observer i command = none := by
  cases command <;> simp only [turn?, h]

end Phases

/-- The ways in which an exchange can take a turn. -/
inductive Takes (observer : Option Observer) (i : Nat) (c : Course) :
    Command → Activity Progress → Prop
  | begins (steps : List AppStep) (hphase : c.phase = .waiting steps) :
      Takes observer i c .resume (begin observer i c.failing steps)
  | calledOff (steps : List AppStep) (hphase : c.phase = .waiting steps) :
      Takes observer i c .cancel (Activity.fail .cancelled)
  | proceeds (rest : List AppStep) (hphase : c.phase = .paused rest) :
      Takes observer i c .resume (proceed observer i c.failing rest)
  | interrupted (rest : List AppStep) (hphase : c.phase = .paused rest) :
      Takes observer i c .cancel (interrupt observer i)

theorem takes_of_turn? {observer : Option Observer} {i : Nat} {c : Course} {command : Command}
    {x : Activity Progress} (hx : c.turn? observer i command = some x) :
    Takes observer i c command x := by
  cases hphase : c.phase with
  | ended =>
      rw [turn?_of_ended hphase] at hx
      cases hx
  | waiting steps =>
      obtain ⟨hresume, hcancel⟩ := turn?_of_waiting observer i hphase
      cases command with
      | resume =>
          obtain rfl := Option.some.inj (hresume.symm.trans hx)
          exact .begins steps hphase
      | cancel =>
          obtain rfl := Option.some.inj (hcancel.symm.trans hx)
          exact .calledOff steps hphase
  | paused rest =>
      obtain ⟨hresume, hcancel⟩ := turn?_of_paused observer i hphase
      cases command with
      | resume =>
          obtain rfl := Option.some.inj (hresume.symm.trans hx)
          exact .proceeds rest hphase
      | cancel =>
          obtain rfl := Option.some.inj (hcancel.symm.trans hx)
          exact .interrupted rest hphase

/-- The steps that an exchange has left. -/
def steps (c : Course) : List AppStep :=
  match c.phase with
  | .waiting steps => steps
  | .paused rest => rest
  | .ended => []

/-- A turn that pauses leaves a strictly shorter end of the steps. -/
theorem suffix_of_turn? {observer : Option Observer} {i : Nat} {c : Course} {command : Command}
    {x : Activity Progress} (hx : c.turn? observer i command = some x) {reads : Nat} {l : Live}
    {rest : List AppStep} (h : (x reads l).result = .ok (.paused rest)) :
    command = .resume ∧ rest <:+ c.steps ∧ rest.length < c.steps.length := by
  unfold steps
  cases takes_of_turn? hx with
  | calledOff steps hphase => cases h
  | begins steps hphase =>
      obtain ⟨reads', l', hadvance⟩ := advance_of_begin h
      rw [hphase]
      exact ⟨rfl, suffix_of_advance hadvance⟩
  | interrupted steps hphase =>
      obtain ⟨-, -, hfail⟩ := Activity.bind_result_eq_ok h
      cases hfail
  | proceeds steps hphase =>
      rw [hphase]
      exact ⟨rfl, suffix_of_advance (advance_of_proceed h)⟩

/-- An exchange that has taken a turn does not wait to begin. -/
theorem phase_take_ne_waiting (observer : Option Observer) (i : Nat) (c : Course) (reads : Nat)
    (command : Command) (steps : List AppStep) :
    (c.take observer i reads command).course.phase ≠ .waiting steps := by
  cases hx : c.turn? observer i command with
  | none =>
      rw [take_of_none hx]
      cases hphase : c.phase <;> cases command <;> simp [turn?, hphase] at hx ⊢
  | some x =>
      rw [take_of_some hx]
      show Progress.phase (x reads c.live).result ≠ .waiting steps
      match (x reads c.live).result with
      | .ok (.paused rest) => exact Phase.noConfusion
      | .ok .returned => exact Phase.noConfusion
      | .error cause => exact Phase.noConfusion

end Course

/-- At most how many turns a phase still allows. -/
def Phase.turnsLeft : Phase → Nat
  | .waiting steps => steps.length + 1
  | .paused rest => rest.length + 1
  | .ended => 0

theorem Course.stepsLeft_succ_ge (c : Course) : c.phase.turnsLeft ≤ c.stepsLeft + 1 := by
  unfold stepsLeft Phase.turnsLeft
  cases c.phase <;> simp

theorem Course.length_steps (c : Course) : c.steps.length = c.phase.turnsLeft - 1 := by
  unfold steps Phase.turnsLeft
  cases c.phase <;> rfl

/-- Each resumption uses up a turn, and no command adds one. -/
theorem turnsLeft_take (observer : Option Observer) (i : Nat) (c : Course) (reads : Nat)
    (command : Command) :
    (c.take observer i reads command).course.phase.turnsLeft ≤
      c.phase.turnsLeft - [command].count .resume := by
  cases hx : c.turn? observer i command with
  | none =>
      rw [Course.take_of_none hx]
      cases hphase : c.phase <;> cases command <;>
        simp [Course.turn?, hphase, Phase.turnsLeft] at hx ⊢
  | some x =>
      rw [Course.take_of_some hx]
      match hr : (x reads c.live).result with
      | .error cause => simp [Course.afterTurn, hr, Progress.phase, Phase.turnsLeft]
      | .ok .returned => simp [Course.afterTurn, hr, Progress.phase, Phase.turnsLeft]
      | .ok (.paused rest) =>
          obtain ⟨rfl, -, hlt⟩ := Course.suffix_of_turn? hx hr
          have hleft := c.length_steps
          show (Progress.phase (x reads c.live).result).turnsLeft ≤ c.phase.turnsLeft - 1
          rw [hr]
          show rest.length + 1 ≤ _
          omega

namespace State

theorem turnsLeft_after (observer : Option Observer) (i : Nat) (signals : List Signal) :
    ∀ (s : State) {c c' : Course}, s.courses[i]? = some c →
      (s.after observer signals).courses[i]? = some c' →
      c'.phase.turnsLeft ≤ c.phase.turnsLeft - (commandsFor i signals).count .resume := by
  induction signals with
  | nil =>
      intro s c c' hc hc'
      obtain rfl := Option.some.inj (hc.symm.trans hc')
      simp [commandsFor]
  | cons signal rest ih =>
      intro s c c' hc hc'
      by_cases hi : signal.index = i
      · subst hi
        have hrest := ih _ (own_step_self observer hc).2 hc'
        have hturn := turnsLeft_take observer signal.index c s.reads signal.command
        simp only [commandsFor, List.filter_cons, beq_self_eq_true, if_true, List.map_cons,
          List.count_cons, List.count_nil] at hrest hturn ⊢
        omega
      · have hrest := ih _ ((own_step_of_ne observer s hi).2.trans hc) hc'
        simpa [commandsFor, hi] using hrest

end State

/-! ## The completion of a schedule -/

theorem commandsFor_append (i : Nat) (signals more : List Signal) :
    commandsFor i (signals ++ more) = commandsFor i signals ++ commandsFor i more := by
  simp [commandsFor]

theorem commandsFor_replicate (i j n : Nat) :
    commandsFor i (List.replicate n ⟨j, .resume⟩) =
      if j = i then List.replicate n .resume else [] := by
  by_cases h : j = i <;> simp [commandsFor, h]

/-- The completion of exchanges that are counted from `k` on. -/
def completionFrom (k : Nat) (courses : List Course) : List Signal :=
  (courses.zipIdx k).flatMap fun (c, i) => List.replicate (c.stepsLeft + 1) ⟨i, .resume⟩

theorem completionFrom_cons (k : Nat) (c : Course) (courses : List Course) :
    completionFrom k (c :: courses) =
      List.replicate (c.stepsLeft + 1) ⟨k, .resume⟩ ++ completionFrom (k + 1) courses := by
  simp [completionFrom]

theorem commandsFor_completionFrom_of_lt {i : Nat} :
    ∀ {k : Nat} {courses : List Course}, i < k → commandsFor i (completionFrom k courses) = []
  | _, [], _ => rfl
  | k, c :: courses, h => by
      rw [completionFrom_cons, commandsFor_append, commandsFor_replicate,
        commandsFor_completionFrom_of_lt (Nat.lt_succ_of_lt h), if_neg (Nat.ne_of_gt h)]
      rfl

theorem commandsFor_completionFrom {c : Course} :
    ∀ {k n : Nat} {courses : List Course}, courses[n]? = some c →
      commandsFor (k + n) (completionFrom k courses) =
        List.replicate (c.stepsLeft + 1) .resume
  | k, 0, d :: courses, h => by
      obtain rfl : d = c := Option.some.inj h
      rw [completionFrom_cons, commandsFor_append, commandsFor_replicate,
        commandsFor_completionFrom_of_lt (Nat.lt_succ_self _), if_pos (by rfl),
        List.append_nil]
  | k, n + 1, d :: courses, h => by
      rw [completionFrom_cons, commandsFor_append, commandsFor_replicate,
        if_neg (by omega), List.nil_append, show k + (n + 1) = (k + 1) + n by omega]
      exact commandsFor_completionFrom h

/-- The completion resumes an exchange once more than it has steps. -/
theorem commandsFor_completion {courses : List Course} {i : Nat} {c : Course}
    (hc : courses[i]? = some c) :
    commandsFor i (completion courses) = List.replicate (c.stepsLeft + 1) .resume := by
  have h := commandsFor_completionFrom (k := 0) hc
  rwa [Nat.zero_add] at h

/-- After its completion, a schedule has made every exchange end. -/
theorem phase_after_completion (observer : Option Observer) {courses : List Course}
    (schedule : List Signal) {i : Nat} {c c' : Course} (hc : courses[i]? = some c)
    (hc' : ((⟨0, courses⟩ : State).after observer
      (schedule ++ completion courses)).courses[i]? = some c') :
    c'.phase = .ended := by
  have h := State.turnsLeft_after observer i _ ⟨0, courses⟩ hc hc'
  rw [commandsFor_append, commandsFor_completion hc, List.count_append,
    List.count_replicate_self] at h
  have hle := c.stepsLeft_succ_ge
  have hzero : c'.phase.turnsLeft = 0 := by omega
  cases hphase : c'.phase with
  | ended => rfl
  | waiting steps => simp [hphase, Phase.turnsLeft] at hzero
  | paused rest => simp [hphase, Phase.turnsLeft] at hzero

/-! ## Samples -/

/-- The scope of a plain request. -/
def sampleScope : Table :=
  [(.text "type", .text "http"), (.text "path", .text "/"),
    (.text "client", .tuple [.text "10.0.0.1", .int 80])]

/-- The start of a response with this status. -/
def sampleStart (status : Int) : Table :=
  [(.text "type", .text "http.response.start"), (.text "status", .int status)]

/-- A body in one part. -/
def sampleBody : Table := [(.text "type", .text "http.response.body")]

end AccessLog.Gateway
