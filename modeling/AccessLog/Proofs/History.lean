import AccessLog.Proofs.RemoteAddress
import AccessLog.Proofs.Turns

/-!
# What the events tell about an observed exchange

An observed exchange keeps facts from different moments: the tick and the client's
host from its entry, the response from the message that started it, and the scope
as the application has left it. All of them can be read off the events so far:
`scopeAfter` is what the scope has become and `startOf?` the response that has
started, and `Knows` says that a moment holds just these facts.

An observed exchange is `Pending` until its line is emitted. That happens after the
last part of the body has been taken (`Sealed`) or when the application ends
(`Over`). The proofs about its activities are triples (`Leads`) over the events so
far and the live state; an activity may fail, so a triple has two ends.
-/

namespace AccessLog.Gateway

/-! ## Kinds of events -/

namespace Event

/-- Does the host take the last part of a body? -/
def takesEnd : Event → Bool
  | sent message => Observer.endsBody message
  | _ => false

/-- Does the event tell nothing about what is kept for a line? -/
def isMute : Event → Bool
  | changed _ => false
  | clock _ => false
  | _ => true

/-- Is the event mute, and does it neither emit anything nor end the body? -/
def isPlain (e : Event) : Bool := e.isMute && !e.isEmission && !e.takesEnd

end Event

/-- Nothing is emitted. -/
def Quiet (events : List Event) : Prop := ∀ e ∈ events, e.isEmission = false

/-- The last part of the body is not taken. -/
def Unended (events : List Event) : Prop := ∀ e ∈ events, e.takesEnd = false

/-- Nothing is told about what is kept for a line. -/
def Mute (events : List Event) : Prop := ∀ e ∈ events, e.isMute = true

/-- Nothing happens that counts for the line. -/
def Plain (events : List Event) : Prop := ∀ e ∈ events, e.isPlain = true

theorem Quiet.append {events more : List Event} (h : Quiet events) (h' : Quiet more) :
    Quiet (events ++ more) :=
  fun e he => (List.mem_append.mp he).elim (h e) (h' e)

theorem Unended.append {events more : List Event} (h : Unended events) (h' : Unended more) :
    Unended (events ++ more) :=
  fun e he => (List.mem_append.mp he).elim (h e) (h' e)

namespace Plain

variable {events : List Event}

theorem mute (h : Plain events) : Mute events := by
  intro e he
  have hplain := h e he
  simp only [Event.isPlain, Bool.and_eq_true] at hplain
  exact hplain.1.1

theorem quiet (h : Plain events) : Quiet events := by
  intro e he
  have hplain := h e he
  simp only [Event.isPlain, Bool.and_eq_true, Bool.not_eq_true'] at hplain
  exact hplain.1.2

theorem unended (h : Plain events) : Unended events := by
  intro e he
  have hplain := h e he
  simp only [Event.isPlain, Bool.and_eq_true, Bool.not_eq_true'] at hplain
  exact hplain.2

theorem singleton {e : Event} (h : e.isPlain = true) : Plain [e] := by
  intro e' he
  rwa [List.mem_singleton.mp he]

end Plain

theorem OnlyLogged.plain {events : List Event} (h : OnlyLogged events) : Plain events := by
  intro e he
  obtain ⟨record, rfl⟩ := h e he
  rfl

/-! ## What has become of the scope, and of the response -/

/-- The scope after events, when it was this one before. -/
def scopeAfter (scope : Table) : List Event → Table
  | [] => scope
  | .changed scope' :: rest => scopeAfter scope' rest
  | _ :: rest => scopeAfter scope rest

/-- The start of a response that is passed on, with the reading of the clock that
comes right after. -/
def Event.start? : Event → Option Event → Option (Table × Reading)
  | passed message, some (clock reading) =>
    if Observer.startsResponse message then some (message, reading) else none
  | _, _ => none

/-- The starts of responses among events, with the readings of the clock that they
were given. -/
def starts : List Event → List (Table × Reading)
  | [] => []
  | e :: rest => (e.start? rest.head?).toList ++ starts rest

/-- The tick and the response of the first start for which neither the clock nor
the headers failed. -/
def startOf? (events : List Event) : Option (Value × Response) :=
  (starts events).findSome? fun (message, reading) => (Observer.answerTo message reading).toOption

theorem scopeAfter_append (scope : Table) (events more : List Event) :
    scopeAfter scope (events ++ more) = scopeAfter (scopeAfter scope events) more := by
  induction events generalizing scope with
  | nil => rfl
  | cons e rest ih => cases e <;> exact ih _

theorem scopeAfter_of_mute {scope : Table} {events : List Event} (h : Mute events) :
    scopeAfter scope events = scope := by
  induction events with
  | nil => rfl
  | cons e rest ih =>
      have hrest := ih fun e he => h e (List.mem_cons_of_mem _ he)
      have he := h e (List.mem_cons_self ..)
      cases e with
      | changed scope' => cases he
      | _ => exact hrest

/-- A scope that is not the first one is one that the application has changed. -/
theorem scopeAfter_eq_or_mem (scope : Table) (events : List Event) :
    scopeAfter scope events = scope ∨ .changed (scopeAfter scope events) ∈ events := by
  induction events generalizing scope with
  | nil => exact Or.inl rfl
  | cons e rest ih =>
      cases e with
      | changed scope' =>
          rcases ih scope' with h | h
          · exact Or.inr (by rw [scopeAfter, h]; exact List.mem_cons_self ..)
          · exact Or.inr (List.mem_cons_of_mem _ h)
      | _ => exact (ih scope).imp_right (List.mem_cons_of_mem _)

theorem Event.start?_of_ne_clock (e : Event) (next : Option Event)
    (h : ∀ r, next ≠ some (.clock r)) : e.start? next = none := by
  unfold start?
  split
  · exact absurd rfl (h _)
  · rfl

theorem starts_append {more : List Event} (h : ∀ r, more.head? ≠ some (.clock r))
    (events : List Event) : starts (events ++ more) = starts events ++ starts more := by
  induction events with
  | nil => rfl
  | cons e rest ih =>
      cases rest with
      | nil =>
          show (e.start? more.head?).toList ++ starts more = _
          rw [e.start?_of_ne_clock _ h]
          simp [starts, e.start?_of_ne_clock none (by simp)]
      | cons next rest =>
          rw [starts, List.append_assoc, ← ih]
          rfl

theorem starts_of_mute {events : List Event} (h : Mute events) : starts events = [] := by
  induction events with
  | nil => rfl
  | cons e rest ih =>
      rw [starts, ih fun e he => h e (List.mem_cons_of_mem _ he), e.start?_of_ne_clock]
      · rfl
      · intro r hr
        exact absurd (h _ (List.mem_cons_of_mem _ (List.mem_of_head? hr))) Bool.false_ne_true

/-- What the last events tell comes after what the earlier ones tell. -/
theorem startOf?_append {more : List Event} (h : ∀ r, more.head? ≠ some (.clock r))
    (events : List Event) : startOf? (events ++ more) = (startOf? events).or (startOf? more) := by
  rw [startOf?, starts_append h, List.findSome?_append]
  rfl

theorem startOf?_append_mute (events : List Event) {more : List Event} (h : Mute more) :
    startOf? (events ++ more) = startOf? events := by
  have hmore : ∀ r, more.head? ≠ some (.clock r) := fun r hr =>
    absurd (h _ (List.mem_of_head? hr)) Bool.false_ne_true
  rw [startOf?_append hmore, startOf?, startOf?, starts_of_mute h]
  exact Option.or_none

/-- A start that is passed on, with the reading for it. -/
theorem startOf?_append_start (events : List Event) {message : Table} {reading : Reading}
    {logs : List Event} (hm : Observer.startsResponse message = true) (h : Mute logs) :
    startOf? (events ++ (.passed message :: .clock reading :: logs)) =
      (startOf? events).or (Observer.answerTo message reading).toOption := by
  have hstarts : starts (.passed message :: .clock reading :: logs) = [(message, reading)] := by
    simp [starts, Event.start?, hm, starts_of_mute h]
  rw [startOf?_append (by rintro r ⟨⟩)]
  congr 1
  rw [startOf?, hstarts, List.findSome?_singleton]

/-! ## What is known -/

/-- The entry of an observed exchange: its observer, its index, and the scope, the
client's host and the tick of the clock at that time. -/
structure Entry where
  observer : Observer
  index : Nat
  scope : Table
  host : Value
  tick : Value

/-- The response of a moment is the one that has started, if any, and its tick
belongs to the same start. -/
def Recorded (events : List Event) (m : Moment) : Prop :=
  match startOf? events with
  | some (tick, response) =>
    m.response = response ∧ m.marks.headersSentAt = tick ∧ tick ≠ .null
  | none => m.response = .none ∧ m.marks.headersSentAt = .null

/-- What the events and the live state are like at some point. -/
abbrev Assertion := List Event → Live → Prop

/-- The last event is that the host takes the last part of the body, for the first
time. -/
def JustEnded (events : List Event) : Prop :=
  ∃ before message, events = before ++ [.sent message] ∧
    Observer.endsBody message = true ∧ Unended before

namespace Entry

variable (x : Entry)

/-- A moment holds the facts that the events before it tell. A clock that shows
nothing leaves a start unmarked, so the start is only known with another clock. -/
structure Knows (events : List Event) (m : Moment) : Prop where
  scope : m.scope = scopeAfter x.scope events
  host : m.host.StandsFor x.host
  startedAt : m.marks.startedAt = x.tick
  recorded : (∀ n, x.observer.clock n ≠ .tick .null) → Recorded events m

/-- The exchange has not finished, and what would be emitted now is known. -/
structure Armed (events : List Event) (l : Live) (c : Capture Emission) (emission : Emission) :
    Prop where
  capture : l.capture = some c
  unfinished : c.finished = false
  handler : c.handler = some emission
  knows : x.Knows events (Observer.momentOf l emission c)
  quiet : Quiet events
  unended : Unended events

/-- The line of the exchange has not been emitted. -/
def Pending : Assertion := fun events l => ∃ c emission, x.Armed events l c emission

/-- The line has been emitted at a moment, and nothing else is emitted. -/
structure Emitted (events before : List Event) (m : Moment) (reading : Reading)
    (reports after : List Event) : Prop where
  split : events = before ++ .finished m :: (m.lookUp reading ++ (reports ++ after))
  knows : x.Knows before m
  account : x.observer.Account x.index m reading reports
  quietBefore : Quiet before
  quietAfter : Quiet after

/-- The line has been emitted after the last part of the body. -/
def Sealed : Assertion := fun events l =>
  (∃ before m reading reports after,
      x.Emitted events before m reading reports after ∧ JustEnded before) ∧
    ∃ c, l.capture = some c ∧ c.finished = true

/-- The line has just been emitted, and the last part of the body is missing. -/
def Told (events : List Event) : Prop :=
  ∃ before m reading reports, x.Emitted events before m reading reports [] ∧ Unended before

/-- How things stand while the application runs. -/
def Going : Assertion := fun events l => x.Pending events l ∨ x.Sealed events l

/-- How things stand when the application has ended. -/
def Over : Assertion := fun events l => x.Told events ∨ x.Sealed events l

/-- The line has been emitted after the last part of the body or, when that is
missing, right before the end of the exchange. -/
def Closed (events : List Event) : Prop :=
  ∃ before m reading reports after, x.Emitted events before m reading reports after ∧
    (JustEnded before ∨ Unended before ∧ ∃ failure, after = [.done failure])

/-- The exchange with these events so far is observed, and this is its entry. -/
structure IsEntryOf (events : List Event) : Prop where
  notPassedOver : x.observer.isPassedOver x.scope = .ok false
  clientHost : clientHost x.scope = .ok x.host
  clock : events.head? = some (.clock (.tick x.tick))

variable {x} {events more : List Event} {l l' : Live}

theorem Knows.append {m : Moment} (h : x.Knows events m) (hmore : Mute more) :
    x.Knows (events ++ more) m where
  scope := by rw [h.scope, scopeAfter_append, scopeAfter_of_mute hmore]
  host := h.host
  startedAt := h.startedAt
  recorded hclock := by
    rw [Recorded, startOf?_append_mute events hmore]
    exact h.recorded hclock

/-- Nothing changes for a pending line as long as only plain things happen. -/
theorem Pending.append (h : x.Pending events l) (hmore : Plain more)
    (hcapture : l'.capture = l.capture) (hscope : l'.scope = l.scope) :
    x.Pending (events ++ more) l' := by
  obtain ⟨c, emission, h⟩ := h
  refine ⟨c, emission, hcapture.trans h.capture, h.unfinished, h.handler, ?_,
    h.quiet.append hmore.quiet, h.unended.append hmore.unended⟩
  have hknows := h.knows.append hmore.mute
  rwa [Observer.momentOf, ← hscope] at hknows

theorem Emitted.append {before reports after : List Event} {m : Moment} {reading : Reading}
    (h : x.Emitted events before m reading reports after) (hmore : Quiet more) :
    x.Emitted (events ++ more) before m reading reports (after ++ more) where
  split := by simp [h.split]
  knows := h.knows
  account := h.account
  quietBefore := h.quietBefore
  quietAfter := h.quietAfter.append hmore

/-- A line that has been emitted stays the only one. -/
theorem Sealed.append (h : x.Sealed events l) (hmore : Quiet more)
    (hfinished : ∃ c, l'.capture = some c ∧ c.finished = true) :
    x.Sealed (events ++ more) l' := by
  obtain ⟨⟨before, m, reading, reports, after, h, hended⟩, -⟩ := h
  exact ⟨⟨before, m, reading, reports, after ++ more, h.append hmore, hended⟩, hfinished⟩

theorem Going.append (h : x.Going events l) (hmore : Plain more)
    (hcapture : l'.capture = l.capture) (hscope : l'.scope = l.scope) :
    x.Going (events ++ more) l' := by
  rcases h with h | h
  · exact Or.inl (h.append hmore hcapture hscope)
  · exact Or.inr (h.append hmore.quiet (by rw [hcapture]; exact h.2))

/-- At the end of an exchange, its line has been emitted for good. -/
theorem Over.closed (h : x.Over events l) (failure : Option Failure) :
    x.Closed (events ++ [.done failure]) := by
  have hquiet : Quiet [.done failure] := by simp [Quiet, Event.isEmission]
  rcases h with ⟨before, m, reading, reports, h, hunended⟩ |
    ⟨⟨before, m, reading, reports, after, h, hended⟩, -⟩
  · exact ⟨before, m, reading, reports, _, h.append hquiet, Or.inr ⟨hunended, failure, rfl⟩⟩
  · exact ⟨before, m, reading, reports, _, h.append hquiet, Or.inl hended⟩

theorem IsEntryOf.append (h : x.IsEntryOf events) : x.IsEntryOf (events ++ more) where
  notPassedOver := h.notPassedOver
  clientHost := h.clientHost
  clock := by rw [List.head?_append, h.clock]; rfl

theorem IsEntryOf.of_append (h : x.IsEntryOf (events ++ more)) (hne : events ≠ []) :
    x.IsEntryOf events where
  notPassedOver := h.notPassedOver
  clientHost := h.clientHost
  clock := by
    cases events with
    | nil => exact absurd rfl hne
    | cons e rest => exact h.clock

end Entry

end AccessLog.Gateway
