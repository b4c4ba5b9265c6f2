import AccessLog.Proofs.Agreement
import AccessLog.Proofs.ClockOrder
import AccessLog.Proofs.Line
import AccessLog.Proofs.Showable

/-!
# No line of a well-formed exchange is lost

When an exchange finishes with a well-formed scope, and came with an address that is well
formed, its facts can be read and any format can be rendered for it, whatever response has
been recorded and whatever integers the clock shows. So its line is written, and no failure
to render it is logged (`rendered_of_isWellFormed`).

The address is the one of the entry, and an application may have reached into it since
then; into a host that is a text it cannot. A failure to render is logged nowhere but in an
emission whose rendering fails (`Explained`): all other records say something else.
-/

namespace AccessLog

/-! ## What a record says -/

/-- What a message says, without what is kept beside it. -/
def Message.said : Message → String
  | .text s => s
  | .withMap s _ => s

/-- Is it the error that a request line cannot be rendered? -/
def Record.isRenderingFailure (r : Record) : Bool :=
  r.level == Level.error &&
    "Failed to render request line".toList.isPrefixOf r.message.said.toList

theorem Record.isRenderingFailure_ofFailure (channel : Channel) (message : Message)
    (cause : Failure) :
    (Record.ofFailure channel message cause).isRenderingFailure =
      "Failed to render request line".toList.isPrefixOf message.said.toList := rfl

/-- The remarks about tokens are no errors. -/
theorem Template.level_of_mem_remarks {t : Template} {e : Exchange} {record : Record}
    (h : record ∈ t.remarks e) : record.level = Level.debug := by
  obtain ⟨s, -, hrecord⟩ := List.mem_flatMap.mp h
  cases s with
  | literal text => cases hrecord
  | token ref =>
      rw [Segment.remarks, TokenRef.remarks] at hrecord
      split at hrecord
      · cases hrecord
      · rw [List.mem_singleton.mp hrecord]

namespace Gateway

/-- A message that concerns a request begins with what it is about. -/
theorem said_messageFor (scope : Table) (s : String) :
    ∃ rest, (messageFor scope s).said.toList = s.toList ++ rest := by
  unfold messageFor
  split
  · exact ⟨_, String.toList_append⟩
  · exact ⟨_, by rw [Message.said, String.append_assoc, String.toList_append]⟩

/-- A failure to record a start is not taken for one to render. -/
theorem isRenderingFailure_startFailed (scope : Table) (cause : Failure) :
    (Record.ofFailure Channel.middleware (messageFor scope "Failed to record response start")
      cause).isRenderingFailure = false := by
  obtain ⟨rest, hsaid⟩ := said_messageFor scope "Failed to record response start"
  refine Bool.eq_false_iff.mpr fun h => ?_
  rw [Record.isRenderingFailure_ofFailure, hsaid, List.isPrefixOf_iff_prefix] at h
  have hprefix := List.prefix_of_prefix_length_le h (List.prefix_append _ rest) (by decide)
  exact absurd hprefix (by decide)

/-- Is it logged that a request line cannot be rendered? -/
def Event.isRenderingFailure : Event → Bool
  | logged r => r.isRenderingFailure
  | _ => false

/-- Where it is logged that a line cannot be rendered, an exchange has finished whose line
cannot. -/
def Explained (o : Observer) (es : List Event) : Prop :=
  ∀ e ∈ es, e.isRenderingFailure = true →
    ∃ m n cause, .finished m ∈ es ∧ m.rendering o.template (o.clock n) = .error cause

section Explanation

variable {o : Observer} {es more : List Event}

theorem explained_of_forall (h : ∀ e ∈ es, e.isRenderingFailure = false) : Explained o es :=
  fun e he hfailure => absurd hfailure (Bool.eq_false_iff.mp (h e he))

theorem Explained.append (h : Explained o es) (hmore : Explained o more) :
    Explained o (es ++ more) := by
  intro e he hfailure
  rcases List.mem_append.mp he with he | he
  · obtain ⟨m, n, cause, hm, hcause⟩ := h e he hfailure
    exact ⟨m, n, cause, List.mem_append_left _ hm, hcause⟩
  · obtain ⟨m, n, cause, hm, hcause⟩ := hmore e he hfailure
    exact ⟨m, n, cause, List.mem_append_right _ hm, hcause⟩

theorem piecewise_explained (o : Observer) : Piecewise fun es _ => Explained o es where
  nil := explained_of_forall nofun
  append h h' := h.append h'
  outside {e} he := explained_of_forall fun e' he' => by
    rw [List.mem_singleton.mp he']
    cases e <;> first | rfl | cases he

theorem isRenderingFailure_of_mem_aftermath {message : Message}
    (hmessage : ∀ cause,
      (Record.ofFailure Channel.middleware message cause).isRenderingFailure = false)
    {answer : Option Failure} : ∀ e ∈ aftermath message answer, e.isRenderingFailure = false := by
  intro e he
  cases answer with
  | none => cases he
  | some cause =>
      by_cases hordinary : cause.isOrdinary = true
      · rw [aftermath, if_pos hordinary] at he
        rw [List.mem_singleton.mp he]
        exact hmessage cause
      · rw [aftermath, if_neg hordinary] at he
        cases he

theorem isRenderingFailure_of_mem_lookUp {m : Moment} {reading : Reading} :
    ∀ e ∈ m.lookUp reading, e.isRenderingFailure = false := by
  unfold Moment.lookUp
  split <;> simp [Event.isRenderingFailure]

theorem isRenderingFailure_of_mem_tellingOf {i : Nat} {r : Rendering} :
    ∀ e ∈ o.tellingOf i r, e.isRenderingFailure = false := by
  have hnotification : ∀ e ∈ o.notificationOf r, e.isRenderingFailure = false := by
    unfold Observer.notificationOf
    split <;> simp [Event.isRenderingFailure]
  have hcallback : ∀ e ∈ aftermath Observer.callbackFailed (o.answerOf i r.tokens),
      e.isRenderingFailure = false :=
    isRenderingFailure_of_mem_aftermath fun _ => by
      rw [Record.isRenderingFailure_ofFailure]
      decide
  have hsink : ∀ e ∈ aftermath Observer.sinkFailed (o.sink i (Observer.lineOf r)),
      e.isRenderingFailure = false :=
    isRenderingFailure_of_mem_aftermath fun _ => by
      rw [Record.isRenderingFailure_ofFailure]
      decide
  intro e he
  unfold Observer.tellingOf at he
  rcases List.mem_append.mp he with he | he
  · exact (List.mem_append.mp he).elim (hnotification e) (hcallback e)
  · split at he
    · rcases List.mem_cons.mp he with rfl | he
      · rfl
      · exact hsink e he
    · cases he

theorem isRenderingFailure_of_mem_remarks {m : Moment} {t : Template} {reading : Reading} :
    ∀ e ∈ (m.remarks t reading).map Event.logged, e.isRenderingFailure = false := by
  intro e he
  obtain ⟨record, hrecord, rfl⟩ := List.mem_map.mp he
  have hlevel : record.level = Level.debug := by
    unfold Moment.remarks at hrecord
    split at hrecord
    · exact Template.level_of_mem_remarks hrecord
    · cases hrecord
  show record.isRenderingFailure = false
  rw [Record.isRenderingFailure, hlevel]
  rfl

/-- An emission logs that its line cannot be rendered only when it cannot. -/
theorem explained_emission (i : Nat) (m : Moment) (n : Nat) :
    Explained o (.finished m :: (m.lookUp (o.clock n) ++ o.emissionOf i m (o.clock n))) := by
  have hremarks := @isRenderingFailure_of_mem_remarks m o.template (o.clock n)
  cases hrendering : m.rendering o.template (o.clock n) with
  | error cause => exact fun _ _ _ => ⟨m, n, cause, List.mem_cons_self .., hrendering⟩
  | ok r =>
      refine explained_of_forall (List.forall_mem_cons.mpr ⟨rfl, ?_⟩)
      simp only [Observer.emissionOf, hrendering, List.forall_mem_append]
      exact ⟨isRenderingFailure_of_mem_lookUp, hremarks, isRenderingFailure_of_mem_tellingOf⟩

theorem explained_beginCapture (reads : Nat) (l : Live) :
    Explained o (o.beginCapture reads l).events := by
  refine explained_of_forall ?_
  rw [Observer.beginCapture_apply]
  cases o.isPassedOver l.scope with
  | error cause => exact nofun
  | ok passed =>
      cases passed with
      | true => exact nofun
      | false =>
          cases o.clock reads with
          | fails cause => simp [Event.isRenderingFailure]
          | tick tick => cases KeptHost.ofScope l.scope <;> simp [Event.isRenderingFailure]

theorem explained_marking (message : Table) (reads : Nat) (l : Live) :
    Explained o (o.marking message reads l).events := by
  refine explained_of_forall ?_
  rcases o.marking_cases message reads l with
    ⟨-, hout⟩ | ⟨c, -, -, ⟨tick, response, -, -, hout⟩ | ⟨cause, -, hout⟩⟩
  · rw [hout]
    exact nofun
  · rw [hout]
    simp [Event.isRenderingFailure]
  · rw [hout]
    exact List.forall_mem_cons.mpr ⟨rfl,
      isRenderingFailure_of_mem_aftermath (isRenderingFailure_startFailed l.scope)⟩

theorem explained_finish (i reads : Nat) (l : Live) : Explained o (o.finish i reads l).events := by
  rcases Observer.finish_cases l with hfinished | ⟨c, hc, hf, hh | ⟨emission, hh⟩⟩
  · rw [o.finish_of_finished i hfinished]
    exact explained_of_forall nofun
  · rw [o.finish_of_unarmed i hc hf hh]
    exact explained_of_forall (by simp [Event.isRenderingFailure, unarmedRemark,
      Record.isRenderingFailure, Record.remark, Level.debug, Level.error])
  · rw [o.finish_apply_of_armed i hc hf hh]
    exact explained_emission i _ reads

/-- Of what an exchange leaves, every failure to render is explained. -/
theorem explained_own (o : Observer) (courses : List Course) (schedule : List Signal) (i : Nat) :
    Explained o (own i (trace (some o) courses schedule)) := by
  have hresembles : Resembles (fun es _ => Explained o es) o o := {
    beginCapture := fun reads l => ⟨rfl, rfl, rfl, explained_beginCapture reads l⟩
    marking := fun message reads l => ⟨rfl, rfl, rfl, explained_marking message reads l⟩
    finish := fun i reads l => ⟨rfl, rfl, rfl, explained_finish i reads l⟩ }
  have hR := piecewise_explained o
  exact (hresembles.trace hR courses schedule).own hR i

end Explanation

/-! ## The theorem -/

theorem mem_readings_of_mem {r : Reading} {events : List Event} (h : .clock r ∈ events) :
    r ∈ readings events := by
  induction events with
  | nil => cases h
  | cons e rest ih =>
      rcases List.mem_cons.mp h with rfl | hrest
      · exact List.mem_cons_self ..
      · cases e with
        | clock r' => exact List.mem_cons_of_mem _ (ih hrest)
        | _ => exact ih hrest

/-- What an exchange reads are answers of the clock. -/
theorem exists_eq_clock_of_mem_own {o : Observer} {courses : List Course} {schedule : List Signal}
    {i : Nat} {reading : Reading}
    (h : .clock reading ∈ own i (trace (some o) courses schedule)) :
    ∃ n, reading = o.clock n := by
  obtain ⟨ns, -, -, hreadings⟩ :=
    State.readings_run o i (schedule ++ completion courses) ⟨0, courses⟩
  have hmem := mem_readings_of_mem h
  rw [trace, hreadings] at hmem
  obtain ⟨n, -, hn⟩ := List.mem_map.mp hmem
  exact ⟨n, hn.symm⟩

/-- What is rendered of the facts of a moment is the rendering of the moment. -/
theorem Moment.rendering_of_render {m : Moment} {request : Request}
    (hrequest : Request.ofScope m.scope m.host = .ok request) {t : Template} {tick : Value}
    {r : Rendering} (hr : t.render ⟨request, m.response, m.marks, tick⟩ = .ok r) :
    m.rendering t (.tick tick) = .ok r := by
  simp only [rendering, hrequest, hr]
  rfl

/-- **No line is lost.** Let the clock show integers, and let an exchange that came with a
well-formed address finish with a well-formed scope. Its facts can be read; with them any
response, any marks and any integer tick make an exchange for which the format can be
rendered, and the map has the text of every token. No failure to render is logged. If the
callback raises nothing but ordinary failures, a line is written: the one that is rendered of
these facts, with the response and the marks of the moment and a tick that the exchange has
read. -/
theorem rendered_of_isWellFormed {format : String} {o : Observer}
    (hformat : o.template = Template.parse format)
    (hclock : ∀ n, ∃ k, o.clock n = .tick (.int k)) {courses : List Course} {i : Nat}
    {scope : Table} {steps : List AppStep} {failing : List Nat}
    (hc : courses[i]? = some (.ofScript scope steps failing))
    (hclient : (scope.get "client").IsAddress) (schedule : List Signal) {m : Moment}
    (hm : .finished m ∈ own i (trace (some o) courses schedule))
    (hscope : m.scope.IsWellFormed) :
    ∃ request, Request.ofScope m.scope m.host = .ok request ∧
      (∀ (response : Response) (marks : Marks) (k : Int), ∃ r,
        o.template.render ⟨request, response, marks, .int k⟩ = .ok r ∧
        ∀ ref ∈ o.template.tokens, ∃ text, r.tokens.get? ref.text = some text ∧
          (ref.resolve ⟨request, response, marks, .int k⟩ = .text text ∨
            ref.resolve ⟨request, response, marks, .int k⟩ = .null ∧ text = "")) ∧
      (∀ e ∈ own i (trace (some o) courses schedule), e.isRenderingFailure = false) ∧
      ((∀ tokens cause, o.answerOf i tokens = some cause → cause.isOrdinary = true) →
        ∃ k r, .clock (.tick (.int k)) ∈ own i (trace (some o) courses schedule) ∧
          o.template.render ⟨request, m.response, m.marks, .int k⟩ = .ok r ∧
          .wrote (Observer.lineOf r) ∈ own i (trace (some o) courses schedule)) := by
  rcases stage_of_trace o hc schedule with ⟨-, hquiet⟩ | ⟨host, start, hentry, hclosed⟩
  · cases hquiet _ hm
  obtain ⟨before, m', reading, reports, after, h, -⟩ := hclosed
  -- An exchange finishes once, so this is the moment of its emission.
  have honly : ∀ other, .finished other ∈ own i (trace (some o) courses schedule) →
      other = m' := by
    intro other hother
    have hmem : Event.finished other ∈
        (own i (trace (some o) courses schedule)).filter Event.isFinished :=
      List.mem_filter.mpr ⟨hother, rfl⟩
    rw [h.filter_isFinished] at hmem
    exact Event.finished.inj (List.mem_singleton.mp hmem)
  obtain rfl := honly m hm
  -- The host was a text on entry, and into a text the application cannot reach.
  have hhost : m.host.IsTextOrNull := by
    obtain ⟨v, hv, htext⟩ := exists_clientHost hclient
    obtain rfl : v = host := Except.ok.inj (hv.symm.trans hentry.clientHost)
    exact (h.knows.host.eq htext).symm ▸ htext
  obtain ⟨request, hrequest, hshowable⟩ := hscope.exists_request hhost
  have hrender (response : Response) (marks : Marks) (k : Int) :
      ∃ r, o.template.render ⟨request, response, marks, .int k⟩ = .ok r :=
    Request.IsShowable.exists_render hshowable o.template
  refine ⟨request, hrequest, ?rendered, ?unlogged, ?written⟩
  case rendered =>
    intro response marks k
    obtain ⟨r, hr⟩ := hrender response marks k
    refine ⟨r, hr, fun ref href => ?_⟩
    rw [hformat] at hr href
    have hshown := (Template.line_of_render hr).1 _ (Template.mem_tokens.mp href)
    exact ⟨_, Template.get?_tokens_of_render hr href, Segment.shown_token_eq_ok.mp hshown⟩
  case unlogged =>
    refine fun e he => Bool.eq_false_iff.mpr fun hfailure => ?_
    obtain ⟨other, n, cause, hother, hcause⟩ := explained_own o courses schedule i e he hfailure
    obtain ⟨k, hk⟩ := hclock n
    obtain ⟨r, hr⟩ := hrender m.response m.marks k
    rw [honly other hother, hk, Moment.rendering_of_render hrequest hr] at hcause
    cases hcause
  case written =>
    intro hordinary
    have hread : .clock reading ∈ own i (trace (some o) courses schedule) := by
      rw [h.split, Moment.lookUp, hrequest]
      simp
    -- Whatever other exchanges have read before, the reading is an answer of this clock.
    obtain ⟨n, rfl⟩ := exists_eq_clock_of_mem_own hread
    obtain ⟨k, hk⟩ := hclock n
    rw [hk] at hread
    obtain ⟨r, hr⟩ := hrender m.response m.marks k
    have hreports := h.filter_isReport
    rw [hk, Moment.rendering_of_render hrequest hr, Observer.reportsOf,
      escaping_of_ordinary (hordinary r.tokens)] at hreports
    have hwrote : .wrote (Observer.lineOf r) ∈
        (own i (trace (some o) courses schedule)).filter Event.isReport :=
      hreports ▸ List.mem_append_right _ (List.mem_singleton_self _)
    exact ⟨k, r, hread, hr, (List.mem_filter.mp hwrote).1⟩

/-- An observer whose clock jumps further than milliseconds can tell. -/
def Observer.leaping : Observer where
  template := Template.parse ":url :status :total-time :req[ports] :remote-addr"
  blacklist := []
  clock n := .tick (.int (Int.pow 10 (400 * n)))
  callback := some fun _ _ => some (.raised .value "no")
  sink _ _ := none

/-- A scope with all kinds of values beside those of a server. -/
def oddScope (state : Value) : Table :=
  [(.text "type", .text "http"), (.text "path", .text "/a"), (.text "method", .null),
    (.text "query_string", .bytes [0xFF]), (.text "client", .list [.text "10.0.0.1", .null]),
    (.text "headers", .tuple [.list [.bytes [0x41], .text "1"]]),
    (.text "ports", .list [.int (-80), .tuple [.text "b", .bytes [0]]]),
    (.text "app", .table [(.object "key", .list [.null, .buffer [], .object "value"])]),
    (.text "state", state)]

/-- The state that the application sets, and the status that it sends, are odd as well. -/
def oddState : Value := .table [(.text "ip", .tuple [.int 7])]

def oddSteps : List AppStep :=
  [⟨.assign [.text "state"] oddState, false⟩,
    ⟨.send [(.text "type", .text "http.response.start"), (.text "status", .list [.bool true])],
      false⟩,
    ⟨.send sampleBody, false⟩]

/-- How the exchange finishes. -/
def oddMoment : Moment where
  scope := oddScope oddState
  host := .text "10.0.0.1"
  response := ⟨.list [.bool true], []⟩
  marks := ⟨.int 1, .int (Int.pow 10 400)⟩

theorem isWellFormed_oddScope : (oddScope oddState).IsWellFormed where
  keys := by simp [oddScope]
  values := by decide +kernel
  path := Or.inr ⟨_, rfl⟩
  rootPath := Or.inl rfl
  method := Or.inl rfl
  httpVersion := Or.inl rfl
  query := Or.inr ⟨_, rfl⟩
  headers := ⟨[⟨"A", "1"⟩], Or.inr ⟨_, rfl,
    .cons ⟨_, _, rfl, Or.inr ⟨_, Or.inl rfl, by decide⟩, Or.inl rfl⟩ .nil⟩⟩
  client := Or.inr ⟨_, _, Or.inr rfl⟩

theorem rendered_of_isWellFormed_odd :
    .finished oddMoment ∈
        own 0 (trace (some .leaping) [.ofScript (oddScope .null) oddSteps []] []) ∧
      ∃ request, Request.ofScope oddMoment.scope oddMoment.host = .ok request ∧
        (∀ (response : Response) (marks : Marks) (k : Int), ∃ r,
          Observer.leaping.template.render ⟨request, response, marks, .int k⟩ = .ok r ∧
          ∀ ref ∈ Observer.leaping.template.tokens, ∃ text,
            r.tokens.get? ref.text = some text ∧
            (ref.resolve ⟨request, response, marks, .int k⟩ = .text text ∨
              ref.resolve ⟨request, response, marks, .int k⟩ = .null ∧ text = "")) ∧
        (∀ e ∈ own 0 (trace (some .leaping) [.ofScript (oddScope .null) oddSteps []] []),
          e.isRenderingFailure = false) ∧
        ∃ k r, .clock (.tick (.int k)) ∈
            own 0 (trace (some .leaping) [.ofScript (oddScope .null) oddSteps []] []) ∧
          Observer.leaping.template.render
            ⟨request, oddMoment.response, oddMoment.marks, .int k⟩ = .ok r ∧
          .wrote (Observer.lineOf r) ∈
            own 0 (trace (some .leaping) [.ofScript (oddScope .null) oddSteps []] []) := by
  have hfinished : .finished oddMoment ∈
      own 0 (trace (some .leaping) [.ofScript (oddScope .null) oddSteps []] []) := by
    decide +kernel
  obtain ⟨request, hrequest, hrendered, hunlogged, hwritten⟩ :=
    rendered_of_isWellFormed rfl (fun n => ⟨_, rfl⟩) rfl (Or.inr ⟨_, _, Or.inr rfl⟩) []
      hfinished isWellFormed_oddScope
  exact ⟨hfinished, request, hrequest, hrendered, hunlogged,
    hwritten fun tokens cause h => by cases h; rfl⟩

end Gateway

end AccessLog
