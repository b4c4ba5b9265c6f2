import AccessLog.Proofs.Line
import AccessLog.Proofs.Rendering

/-!
# Lines that are written

A line that is written is the rendering of an exchange whose facts are those of the
moment at which the observed exchange finished: `WritesAt` says so, and
`exists_writesAt` finds the moment for every line. Whatever the clock answers, the
request is read from the scope as the application has left it, and the client's
host is the one of the entry.
-/

namespace AccessLog.Gateway

/-- The exchange with these events, which had this scope on entry, finished at `m`,
after `before`, and the text that was written is the rendering `r` of `e`. -/
structure WritesAt (o : Observer) (scope : Table) (events before : List Event) (m : Moment)
    (e : Exchange) (r : Rendering) (text : String) : Prop where
  split : ∃ after, events = before ++ .finished m :: after
  quiet : Quiet before
  request : ∃ host, clientHost scope = .ok host ∧
    Request.ofScope (scopeAfter scope before) host = .ok e.request
  response : e.response = m.response
  marks : e.marks = m.marks
  rendered : o.template.render e = .ok r
  line : r.line = String.join (o.template.segments.map (Segment.part e))
  text : text = r.line ++ "\n"
  tokens : ∀ tokens, .notified tokens ∈ events → tokens = r.tokens

/-- What is reported of an emission is the line of a rendering and its tokens. -/
theorem Entry.Emitted.writesAt {x : Entry} {events before reports after : List Event}
    {m : Moment} {reading : Reading} (h : x.Emitted events before m reading reports after)
    (hentry : x.IsEntryOf events) {text : String} (hwrote : .wrote text ∈ events) :
    ∃ e r, WritesAt x.observer x.scope events before m e r text := by
  have hreports := h.filter_isReport
  have hmem : .wrote text ∈
      x.observer.reportsOf x.index (m.rendering x.observer.template reading) := by
    rw [← hreports]
    exact List.mem_filter.mpr ⟨hwrote, rfl⟩
  obtain ⟨r, hr, htext, htokens⟩ := Observer.exists_of_wrote_mem_reportsOf hmem
  obtain ⟨request, tick, hrequest, rfl, hrender⟩ := Moment.exists_of_rendering_eq_ok hr
  obtain ⟨haddress, hhost⟩ := Request.ofScope_remoteAddress x.host hrequest
  have hstands : request.remoteAddress.StandsFor x.host := by
    rw [haddress]
    exact h.knows.host
  have hrendered := Template.render_withRemoteAddress (e := ⟨request, m.response, m.marks, tick⟩)
    hstands hrender
  refine ⟨Exchange.withRemoteAddress ⟨request, m.response, m.marks, tick⟩ x.host, r, ?_⟩
  exact {
    split := ⟨_, h.split⟩
    quiet := h.quietBefore
    request := ⟨x.host, hentry.clientHost, by rw [← h.knows.scope]; exact hhost⟩
    response := rfl
    marks := rfl
    rendered := hrendered
    line := (Template.line_of_render hrendered).2
    text := htext
    tokens := fun tokens hmem => htokens tokens (by
      rw [← hreports]
      exact List.mem_filter.mpr ⟨hmem, rfl⟩) }

/-- For every line that is written there is the moment that it is rendered from. -/
theorem exists_writesAt (o : Observer) {courses : List Course} {i : Nat} {scope : Table}
    {steps : List AppStep} {failing : List Nat}
    (hc : courses[i]? = some (.ofScript scope steps failing)) (schedule : List Signal)
    {text : String} (hwrote : .wrote text ∈ own i (trace (some o) courses schedule)) :
    ∃ before m e r,
      WritesAt o scope (own i (trace (some o) courses schedule)) before m e r text := by
  rcases stage_of_trace o hc schedule with ⟨-, hquiet⟩ | ⟨host, start, hentry, hclosed⟩
  · cases hquiet _ hwrote
  · obtain ⟨before, m, reading, reports, after, h, -⟩ := hclosed
    obtain ⟨e, r, hwrites⟩ := h.writesAt hentry hwrote
    exact ⟨before, m, e, r, hwrites⟩

end AccessLog.Gateway
