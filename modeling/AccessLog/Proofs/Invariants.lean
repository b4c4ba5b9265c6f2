import AccessLog.Proofs.Stages

/-!
# What an exchange keeps

An assertion that holds when an exchange has begun, and that is kept by everything its
application does and when it finishes, holds of all its events (`trace_keeps`). What is
asked of the assertion is asked of the exchange alone: a schedule may move it and any
others as it likes.
-/

namespace AccessLog.Gateway

variable {P : Assertion} {o : Observer} {i : Nat} {scope : Table} {failing : List Nat}

/-- The exchange holds this assertion, and has not begun while it waits. -/
structure Holds (P : Assertion) (scope : Table) (failing : List Nat) (events : List Event)
    (c : Course) : Prop where
  failing : c.failing = failing
  live : P events c.live
  waiting : ∀ steps, c.phase = .waiting steps → events = [] ∧ c.live = ⟨scope, 0, none⟩

/-- However a turn ends, what holds before its last event holds after it. -/
theorem Kept.turnEnd {send : Send} (hkept : Kept P send) {events : List Event}
    {p : Outcome Progress} (h : P (events ++ p.events) p.live) :
    P (events ++ (p.events ++ [Progress.event p.result])) p.live := by
  rw [← List.append_assoc]
  match p.result with
  | .ok (.paused _) => exact hkept.plain rfl rfl nofun h
  | .ok .returned => exact hkept.plain rfl rfl nofun h
  | .error _ => exact hkept.plain rfl rfl nofun h

/-- What holds when an exchange has begun, and is kept by everything its application
does and when it finishes, is kept by every turn. -/
theorem Holds.turn?
    (hbegin : ∀ reads, P (o.beginCapture reads ⟨scope, 0, none⟩).events
      (o.beginCapture reads ⟨scope, 0, none⟩).live)
    (hkept : Kept P (sendOf (some o) i failing))
    (hfinish : Leads P (o.finish i) (fun _ => P) P)
    {events : List Event} {c : Course} (h : Holds P scope failing events c) {command : Command}
    {x : Activity Progress} (hx : c.turn? (some o) i command = some x) (reads : Nat) :
    P (events ++ (x reads c.live).events) (x reads c.live).live := by
  cases Course.takes_of_turn? hx with
  | proceeds rest _ =>
      have hproceed := hkept.proceed hfinish rest
      rw [atTurn_self, ← h.failing] at hproceed
      exact hproceed.always _ _ _ h.live
  | interrupted =>
      have hinterrupt : Leads P (interrupt (some o) i) (fun _ => P) P :=
        hfinish.bind fun _ => leads_fail .cancelled
      exact hinterrupt.always _ _ _ h.live
  | begins steps hphase =>
      -- `P` need not hold before the entry, only after it.
      obtain ⟨rfl, hlive⟩ := h.waiting steps hphase
      have hentry : Leads (fun events l => events = [] ∧ l = ⟨scope, 0, none⟩)
          (beforeEntry (some o)) (fun _ => P) P := by
        refine leads_of_always ?_
        rintro _ reads _ ⟨rfl, rfl⟩
        exact hbegin reads
      have henter := hkept.enter hfinish steps
      rw [atTurn_self] at henter
      rw [begin_eq, h.failing]
      exact (hentry.bind fun _ => henter).always _ _ _ ⟨rfl, hlive⟩
  | calledOff => simpa using h.live

/-- What holds when an exchange has begun, and is kept by everything its application
does and when it finishes, holds of all its events. -/
theorem trace_keeps {courses : List Course} {steps : List AppStep}
    (hc : courses[i]? = some (.ofScript scope steps failing)) (schedule : List Signal)
    (hinit : P [] ⟨scope, 0, none⟩)
    (hbegin : ∀ reads, P (o.beginCapture reads ⟨scope, 0, none⟩).events
      (o.beginCapture reads ⟨scope, 0, none⟩).live)
    (hkept : Kept P (sendOf (some o) i failing))
    (hfinish : Leads P (o.finish i) (fun _ => P) P) :
    ∃ l, P (own i (trace (some o) courses schedule)) l := by
  have htake : ∀ events c reads command, Holds P scope failing events c →
      Holds P scope failing (events ++ (c.take (some o) i reads command).events)
        (c.take (some o) i reads command).course := by
    intro events c reads command h
    cases hx : c.turn? (some o) i command with
    | none =>
        rw [Course.take_of_none hx, List.append_nil]
        exact h
    | some x =>
        have hwaiting := Course.phase_take_ne_waiting (some o) i c reads command
        rw [Course.take_of_some hx] at hwaiting ⊢
        exact ⟨h.failing, hkept.turnEnd (h.turn? hbegin hkept hfinish hx reads),
          fun steps hphase => absurd hphase (hwaiting steps)⟩
  obtain ⟨c, -, h⟩ := State.run_keeps (some o) i (Holds P scope failing) htake
    (schedule ++ completion courses) ⟨0, courses⟩ hc ⟨rfl, hinit, fun _ _ => ⟨rfl, rfl⟩⟩
  exact ⟨c.live, h.live⟩

end AccessLog.Gateway
