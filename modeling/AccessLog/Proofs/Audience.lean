import AccessLog.Proofs.Agreement
import AccessLog.Proofs.Emission
import AccessLog.Proofs.Transparency

/-!
# An observer and its audience

A callback and a sink are told about lines, and nothing else depends on what they do:
before any two audiences the same exchanges leave the same trace but for the calls of the
callback and the complaints about a failure of the audience (`filter_trace_before`). So
the same lines are written in the same order, callbacks that are called get the same maps,
and the applications and the host see the same.

A callback gets a map of its own, so what it does to the map is its own affair. What
counts of a participant is the failure that it raises, and an ordinary one is dealt with.
-/

namespace AccessLog.Gateway

/-- Who is told about lines: the callback, if there is one, and the sink. Each answers a
call with the failure that it raises, if any. -/
structure Audience where
  callback : Option (Nat → Named String → Option Failure)
  sink : Nat → String → Option Failure

namespace Audience

/-- Neither raises anything but ordinary failures. -/
structure IsOrdinary (a : Audience) : Prop where
  callback : ∀ f, a.callback = some f →
    ∀ i tokens cause, f i tokens = some cause → cause.isOrdinary = true
  sink : ∀ i line cause, a.sink i line = some cause → cause.isOrdinary = true

end Audience

namespace Observer

/-- The observer before another audience. -/
def before (o : Observer) (a : Audience) : Observer :=
  { o with callback := a.callback, sink := a.sink }

@[simp] theorem before_template (o : Observer) (a : Audience) :
    (o.before a).template = o.template := rfl

end Observer

namespace Event

/-- Is an error logged because the callback or the sink has failed? -/
def isComplaint : Event → Bool
  | logged r =>
    r.level == Level.error && r.channel == Channel.middleware &&
      (r.message == Observer.callbackFailed || r.message == Observer.sinkFailed)
  | _ => false

end Event

/-- The same events, but for those that are left out. -/
def SameBut (keep : Event → Bool) (es es' : List Event) : Prop := es.filter keep = es'.filter keep

theorem piecewise_sameBut (keep : Event → Bool) : Piecewise (SameBut keep) where
  nil := rfl
  append h h' := by rw [SameBut, List.filter_append, List.filter_append, h, h']
  outside _ := rfl

theorem Turnwise.filter_eq {keep : Event → Bool} {events events' : List Tagged}
    (h : Turnwise (SameBut keep) events events') :
    events.filter (fun e => keep e.2) = events'.filter (fun e => keep e.2) := by
  have hfilter : ∀ (i : Nat) (es : List Event),
      (es.map (i, ·)).filter (fun e : Tagged => keep e.2) = (es.filter keep).map (i, ·) :=
    fun i es => List.filter_map
  induction h with
  | nil => rfl
  | turn i hturn _ ih => rw [List.filter_append, List.filter_append, hfilter, hfilter, hturn, ih]

/-- What is kept shows nothing of how the two audiences differ. -/
structure Overlooks (keep : Event → Bool) (a b : Audience) : Prop where
  complaints : ∀ e, e.isComplaint = true → keep e = false
  notified : a.callback.isSome = b.callback.isSome ∨ ∀ tokens, keep (.notified tokens) = false

section Audiences

variable {o : Observer} {a b : Audience} {keep : Event → Bool}

/-- Where complaints are left out, so is the record of an answer. -/
theorem filter_aftermath (hcomplaints : ∀ e, e.isComplaint = true → keep e = false)
    {message : Message}
    (hmessage : message = Observer.callbackFailed ∨ message = Observer.sinkFailed)
    (answer : Option Failure) : (aftermath message answer).filter keep = [] := by
  have hrecord : ∀ cause, keep (.logged (.ofFailure Channel.middleware message cause)) = false :=
    fun cause => hcomplaints _ (by simp [Event.isComplaint, Record.ofFailure, hmessage])
  cases answer with
  | none => rfl
  | some cause =>
      unfold aftermath
      split
      · simp [hrecord]
      · rfl

theorem Audience.IsOrdinary.answerOf (ha : a.IsOrdinary) (i : Nat) (tokens : Named String) :
    escaping ((o.before a).answerOf i tokens) = .ok () :=
  Observer.escaping_answerOf (o := o.before a) ha.callback i tokens

/-- Nothing escapes from telling such an audience about a rendering. -/
theorem Audience.IsOrdinary.escapingOf (ha : a.IsOrdinary) (i : Nat) (r : Rendering) :
    (o.before a).escapingOf i (.ok r) = .ok () :=
  Observer.escapingOf_of_escaping (ha.answerOf i r.tokens)
    (escaping_of_ordinary (ha.sink i (Observer.lineOf r)))

/-- What is left of telling an audience about a rendering: the map, if there is a callback,
and the line. -/
theorem filter_tellingOf (ha : a.IsOrdinary)
    (hcomplaints : ∀ e, e.isComplaint = true → keep e = false) (i : Nat) (r : Rendering) :
    ((o.before a).tellingOf i r).filter keep =
      ((o.before a).notificationOf r).filter keep ++
        [Event.wrote (Observer.lineOf r)].filter keep := by
  rw [Observer.tellingOf_of_escaping (ha.answerOf i r.tokens), List.filter_append,
    List.filter_append, filter_aftermath hcomplaints (.inl rfl), List.append_nil,
    ← List.singleton_append, List.filter_append, filter_aftermath hcomplaints (.inr rfl),
    List.append_nil]

/-- The map is handed over or left out alike. -/
theorem filter_notificationOf (hkeep : Overlooks keep a b) (r : Rendering) :
    ((o.before a).notificationOf r).filter keep = ((o.before b).notificationOf r).filter keep := by
  rcases hkeep.notified with hsame | hleft
  · have hnotification : (o.before a).notificationOf r = (o.before b).notificationOf r := by
      show (if a.callback.isSome = true then [Event.notified r.tokens] else []) =
        if b.callback.isSome = true then [Event.notified r.tokens] else []
      rw [hsame]
    rw [hnotification]
  · have hnil : ∀ a, ((o.before a).notificationOf r).filter keep = [] := fun a => by
      unfold Observer.notificationOf
      split
      · simp [hleft]
      · rfl
    rw [hnil, hnil]

/-- What an emission leaves before two audiences is the same but for what is left out. -/
theorem sameBut_emissionOf (ha : a.IsOrdinary) (hb : b.IsOrdinary)
    (hkeep : Overlooks keep a b) (i : Nat) (m : Moment) (reading : Reading) :
    SameBut keep ((o.before a).emissionOf i m reading) ((o.before b).emissionOf i m reading) ∧
      (o.before a).escapingOf i (m.rendering o.template reading) =
        (o.before b).escapingOf i (m.rendering o.template reading) := by
  simp only [SameBut, Observer.emissionOf, Observer.before_template]
  cases m.rendering o.template reading with
  | error cause => exact ⟨rfl, rfl⟩
  | ok r =>
      constructor
      · rw [List.filter_append, List.filter_append, filter_tellingOf ha hkeep.complaints,
          filter_tellingOf hb hkeep.complaints, filter_notificationOf hkeep]
      · rw [ha.escapingOf, hb.escapingOf]

/-- Before two audiences an observer finishes alike. -/
theorem agrees_finish_before (ha : a.IsOrdinary) (hb : b.IsOrdinary)
    (hkeep : Overlooks keep a b) (i : Nat) :
    Agrees (SameBut keep) ((o.before a).finish i) ((o.before b).finish i) := by
  intro reads l
  have hR := piecewise_sameBut keep
  rcases Observer.finish_cases l with hfinished | ⟨c, hc, hf, hh | ⟨emission, hh⟩⟩
  · rw [Observer.finish_of_finished _ i hfinished, Observer.finish_of_finished _ i hfinished]
    exact ⟨rfl, rfl, rfl, rfl⟩
  · rw [Observer.finish_of_unarmed _ i hc hf hh, Observer.finish_of_unarmed _ i hc hf hh]
    exact ⟨rfl, rfl, rfl, rfl⟩
  · rw [Observer.finish_apply_of_armed _ i hc hf hh,
      Observer.finish_apply_of_armed _ i hc hf hh]
    obtain ⟨hevents, hescaping⟩ := sameBut_emissionOf (o := o) ha hb hkeep i
      (Observer.momentOf l emission c) (o.clock reads)
    exact ⟨hescaping, rfl, rfl, hR.cons rfl (hR.append rfl hevents)⟩

theorem resembles_before (ha : a.IsOrdinary) (hb : b.IsOrdinary) (hkeep : Overlooks keep a b) :
    Resembles (SameBut keep) (o.before a) (o.before b) where
  beginCapture _ _ := ⟨rfl, rfl, rfl, rfl⟩
  marking _ _ _ := ⟨rfl, rfl, rfl, rfl⟩
  finish := agrees_finish_before ha hb hkeep

/-- Whoever the audiences are, what is not left out is the same in both runs. -/
theorem filter_trace_before_of_overlooks (keep : Event → Bool) (ha : a.IsOrdinary)
    (hb : b.IsOrdinary) (hkeep : Overlooks keep a b) (courses : List Course)
    (schedule : List Signal) :
    (trace (some (o.before a)) courses schedule).filter (fun e => keep e.2) =
      (trace (some (o.before b)) courses schedule).filter fun e => keep e.2 :=
  ((resembles_before ha hb hkeep).trace (piecewise_sameBut keep) courses schedule).filter_eq

end Audiences

/-- **The audience changes nothing.** Before any two audiences that raise nothing but
ordinary failures, the same exchanges under the same schedule leave the same trace, but
for the calls of the callback and the complaints about the callback and the sink. When both
have a callback, or neither has, its calls are the same as well, with the same maps. -/
theorem filter_trace_before (o : Observer) {a b : Audience} (ha : a.IsOrdinary)
    (hb : b.IsOrdinary) (courses : List Course) (schedule : List Signal) :
    (trace (some (o.before a)) courses schedule).filter
        (fun e => !(e.2.isNotified || e.2.isComplaint)) =
      (trace (some (o.before b)) courses schedule).filter
        (fun e => !(e.2.isNotified || e.2.isComplaint)) ∧
    (a.callback.isSome = b.callback.isSome →
      (trace (some (o.before a)) courses schedule).filter (fun e => !e.2.isComplaint) =
        (trace (some (o.before b)) courses schedule).filter (fun e => !e.2.isComplaint)) := by
  constructor
  · exact filter_trace_before_of_overlooks (fun e => !(e.isNotified || e.isComplaint)) ha hb
      ⟨fun e he => by rw [he, Bool.or_true]; rfl, .inr fun _ => rfl⟩ courses schedule
  · exact fun hsame => filter_trace_before_of_overlooks (fun e => !e.isComplaint) ha hb
      ⟨fun e he => by rw [he]; rfl, .inl hsame⟩ courses schedule

/-- A callback and a sink that take everything. -/
def Audience.content : Audience := ⟨some fun _ _ => none, fun _ _ => none⟩

/-- A callback that fails in the first exchange, and a sink that always fails. -/
def Audience.failing : Audience where
  callback := some fun i _ => if i = 0 then some (.raised .value "no") else none
  sink _ _ := some (.raised .os "full")

theorem filter_trace_before_failing :
    Audience.content.IsOrdinary ∧ Audience.failing.IsOrdinary ∧
      (trace (some (Observer.grumbling.before .content)) troubledCourses troubledSchedule).any
        (fun e => e.2.isComplaint) = false ∧
      (trace (some (Observer.grumbling.before .failing)) troubledCourses troubledSchedule).any
        (fun e => e.2.isComplaint) = true ∧
      (trace (some (Observer.grumbling.before .content)) troubledCourses
          troubledSchedule).filter (fun e => !(e.2.isNotified || e.2.isComplaint)) =
        (trace (some (Observer.grumbling.before .failing)) troubledCourses
          troubledSchedule).filter (fun e => !(e.2.isNotified || e.2.isComplaint)) ∧
      (trace (some (Observer.grumbling.before .content)) troubledCourses
          troubledSchedule).filter (fun e => !e.2.isComplaint) =
        (trace (some (Observer.grumbling.before .failing)) troubledCourses
          troubledSchedule).filter (fun e => !e.2.isComplaint) := by
  have hcontent : Audience.content.IsOrdinary := by
    constructor
    · rintro f ⟨⟩ i tokens cause ⟨⟩
    · rintro i line cause ⟨⟩
  have hfailing : Audience.failing.IsOrdinary := by
    constructor
    · rintro f ⟨⟩ i tokens cause h
      obtain ⟨-, ⟨⟩⟩ := Option.ite_none_right_eq_some.mp h
      rfl
    · rintro i line cause ⟨⟩
      rfl
  obtain ⟨hrest, hcalls⟩ :=
    filter_trace_before .grumbling hcontent hfailing troubledCourses troubledSchedule
  exact ⟨hcontent, hfailing, by decide +kernel, by decide +kernel, hrest, hcalls rfl⟩

end AccessLog.Gateway
