import Mathlib.Data.List.SplitBy
import AccessLog.Proofs.OneLineTokens
import AccessLog.Proofs.Starts

/-!
# How many lines a line is

What is written ends in a line feed. Every other line feed in it is one that a token
shows, because values are put into a line as they are (`feeds_of_wrote`): none is escaped,
and none is added. Servers keep line feeds out of the headers and of most other facts of a
request, but a path is decoded before it is handed over, so the URL can show one and make
one line look like two (`feeds_of_forged_path`).
-/

namespace AccessLog

open Text (IsOneLine)

namespace Text

/-- The number of line feeds in a text. -/
def feeds (s : String) : Nat := s.toList.count '\n'

theorem feeds_eq_zero {s : String} : feeds s = 0 ↔ IsOneLine s := List.count_eq_zero

theorem feeds_append (s t : String) : feeds (s ++ t) = feeds s + feeds t := by
  rw [feeds, String.toList_append, List.count_append]
  rfl

theorem isOneLine_join {parts : List String} (h : ∀ part ∈ parts, IsOneLine part) :
    IsOneLine (String.join parts) := by
  induction parts with
  | nil => decide
  | cons part rest ih =>
      rw [String.join_cons]
      exact (h part (List.mem_cons_self ..)).append
        (ih fun p hp => h p (List.mem_cons_of_mem _ hp))

end Text

/-! ## Lines -/

/-- A start of a response whose status and headers hold no line feed. -/
structure StartIsOneLine (message : Table) : Prop where
  status : (Table.get message "status").isOneLine = true
  headers : Headers.PairsAreOneLine (Table.get message "headers")

theorem Response.isOneLine_of_ofStart {message : Table} {response : Response}
    (hmessage : StartIsOneLine message) (h : ofStart (.table message) = .ok response) :
    response.IsOneLine := by
  obtain ⟨hstatus, hheaders⟩ := ofStart_eq_ok h
  exact ⟨hstatus ▸ hmessage.status, Headers.areOneLine_of_decode hmessage.headers hheaders⟩

namespace Template

theorem isOneLine_of_literal {format : String} (h : IsOneLine format) {text : String}
    (hmem : .literal text ∈ (parse format).segments) : IsOneLine text := by
  obtain ⟨run, hrun, hparse⟩ := List.mem_map.mp (segments_parse format ▸ hmem)
  have htext : text = String.ofList run := by
    unfold Segment.parse at hparse
    split at hparse
    · cases hparse
    · cases hparse
      rfl
  rw [htext, Text.isOneLine_ofList]
  intro hfeed
  refine h ?_
  have hflatten : (runs format).flatten = format.toList := List.flatten_splitBy ..
  rw [← hflatten]
  exact List.mem_flatten.mpr ⟨run, hrun, hfeed⟩

/-- The parts of the tokens of a template, one after the other. -/
def tokenText (t : Template) (e : Exchange) : String :=
  String.join (t.tokens.map fun ref => (Segment.token ref).part e)

/-- The line feeds of the segments are those of the tokens, when the rest holds none. -/
theorem feeds_join_parts {e : Exchange} {segments : List Segment}
    (h : ∀ text, .literal text ∈ segments → IsOneLine text) :
    Text.feeds (String.join (segments.map (Segment.part e))) =
      Text.feeds (String.join ((segments.filterMap Segment.token?).map fun ref =>
        (Segment.token ref).part e)) := by
  induction segments with
  | nil => rfl
  | cons s rest ih =>
      have hrest := ih fun text htext => h text (List.mem_cons_of_mem _ htext)
      rw [List.map_cons, String.join_cons, Text.feeds_append, hrest]
      -- A literal is dropped, but holds no line feed; a token stays.
      cases s with
      | literal text =>
          have htext := Text.feeds_eq_zero.mpr (h text (List.mem_cons_self ..))
          exact (congrArg (· + _) htext).trans (Nat.zero_add _)
      | token ref =>
          have htoken : (Segment.token ref).token? = some ref := rfl
          rw [List.filterMap_cons_some htoken, List.map_cons, String.join_cons, Text.feeds_append]

end Template

namespace Gateway

/-- Of what a line can show of an exchange with this scope on entry and these events, the
path alone may hold a line feed. -/
structure OnlyPathFeeds (scope : Table) (events : List Event) : Prop where
  entry : FeedsOnlyPath scope
  changed : ∀ s, .changed s ∈ events → FeedsOnlyPath s
  started : ∀ message, .passed message ∈ events → Observer.startsResponse message = true →
    StartIsOneLine message

variable {o : Observer} {scope : Table} {events before : List Event} {m : Moment} {e : Exchange}
  {r : Rendering} {text : String}

theorem OnlyPathFeeds.scopeAfter (h : OnlyPathFeeds scope before) :
    FeedsOnlyPath (scopeAfter scope before) := by
  rcases scopeAfter_eq_or_mem scope before with heq | hmem
  · exact heq.symm ▸ h.entry
  · exact h.changed _ hmem

/-- A response that the events tell of is one line when all their starts are. -/
theorem OnlyPathFeeds.response (h : OnlyPathFeeds scope before) {response : Response}
    {tick : Value} (htells : Tells o before response tick) : response.IsOneLine := by
  rcases htells.recorded with ⟨rfl, -⟩ | ⟨earlier, message, hrecords⟩
  · exact Response.isOneLine_none
  · obtain ⟨outcome, later, hsplit, -⟩ := hrecords.split
    have hpassed : .passed message ∈ before := by
      rw [hsplit]
      simp
    exact Response.isOneLine_of_ofStart (h.started message hpassed hrecords.starts)
      hrecords.response

/-- What is written has the line feeds of its tokens, and one more. -/
theorem WritesAt.feeds_eq (h : WritesAt o scope events before m e r text) {format : String}
    (hformat : o.template = Template.parse format) (hline : IsOneLine format) :
    Text.feeds text = Text.feeds (o.template.tokenText e) + 1 := by
  have hliteral : ∀ s, .literal s ∈ o.template.segments → IsOneLine s := by
    rw [hformat]
    exact fun s => Template.isOneLine_of_literal hline
  rw [h.text, Text.feeds_append, h.line, Template.feeds_join_parts hliteral]
  rfl

/-- **The line feeds of a line.** In what is written for a format without a line feed, the
line feeds are the last character and those that the tokens show. As long as the path
alone may hold one, only the tokens that show the path do; when the path holds none
either, what is written is one line. -/
theorem feeds_of_wrote (o : Observer) {format : String}
    (hformat : o.template = Template.parse format) (hline : IsOneLine format)
    {courses : List Course} {i : Nat} {scope : Table} {steps : List AppStep} {failing : List Nat}
    (hc : courses[i]? = some (.ofScript scope steps failing)) (schedule : List Signal)
    {text : String} (hwrote : .wrote text ∈ own i (trace (some o) courses schedule)) :
    ∃ before m e r, WritesAt o scope (own i (trace (some o) courses schedule)) before m e r text ∧
      text.toList.getLast? = some '\n' ∧
      Text.feeds text = Text.feeds (o.template.tokenText e) + 1 ∧
      (OnlyPathFeeds scope before →
        (∀ ref ∈ o.template.tokens, ¬ ref.ShowsPath → IsOneLine ((Segment.token ref).part e)) ∧
        (PathIsOneLine (scopeAfter scope before) → Text.feeds text = 1)) := by
  obtain ⟨before, m, e, r, hwrites⟩ := exists_writesAt o hc schedule hwrote
  have hfeeds := hwrites.feeds_eq hformat hline
  refine ⟨before, m, e, r, hwrites, by simp [hwrites.text], hfeeds, fun honly => ?_⟩
  obtain ⟨after, hsplit⟩ := hwrites.split
  have htells := finishesTold_own o hc schedule before m after hsplit
  rw [← hwrites.response] at htells
  have hresponse := honly.response htells
  obtain ⟨host, hhost, hrequest⟩ := hwrites.request
  have hread := Request.isReadFrom_of_ofScope hrequest
  have hhostFeeds := isOneLine_clientHost honly.entry hhost
  have hrequestFeeds := hread.feedsOnlyPath honly.scopeAfter hhostFeeds
  refine ⟨fun ref _ hshows => ?_, fun hpath => ?_⟩
  · exact Segment.isOneLine_part hrequestFeeds hresponse fun h => absurd h hshows
  · rw [hfeeds, Nat.add_eq_right, Text.feeds_eq_zero]
    refine Text.isOneLine_join (List.forall_mem_map.mpr fun ref _ => ?_)
    exact Segment.isOneLine_part hrequestFeeds hresponse fun _ =>
      hread.pathIsOneLine honly.scopeAfter hpath

/-- An observer that shows the URL and where it was referred from. -/
def Observer.referring : Observer where
  template := Template.parse ":status :url from :referrer"
  blacklist := []
  clock n := .tick (.int n)
  callback := none
  sink _ _ := none

/-- The scope of a request for a path, referred from another one. -/
def referredScope (path : String) : Table :=
  [(.text "type", .text "http"), (.text "path", .text path),
    (.text "headers", .list [.tuple [.bytes [114, 101, 102, 101, 114, 101, 114], .bytes [47, 98]]])]

/-- An application that answers. -/
def answeringSteps : List AppStep := [⟨.send (sampleStart 200), false⟩, ⟨.send sampleBody, false⟩]

theorem feeds_of_wrote_referred :
    IsOneLine ":status :url from :referrer" ∧
      ∃ before m e r, WritesAt .referring (referredScope "/a")
          (own 0 (trace (some .referring) [.ofScript (referredScope "/a") answeringSteps []] []))
          before m e r "200 /a from /b\n" ∧
        "200 /a from /b\n".toList.getLast? = some '\n' ∧
        Text.feeds "200 /a from /b\n" = Text.feeds (Observer.referring.template.tokenText e) + 1 ∧
        (OnlyPathFeeds (referredScope "/a") before →
          (∀ ref ∈ Observer.referring.template.tokens, ¬ ref.ShowsPath →
            IsOneLine ((Segment.token ref).part e)) ∧
          (PathIsOneLine (scopeAfter (referredScope "/a") before) →
            Text.feeds "200 /a from /b\n" = 1)) :=
  have hline : IsOneLine ":status :url from :referrer" := by decide
  ⟨hline, feeds_of_wrote .referring rfl hline rfl [] (by decide +kernel)⟩

/-- Nothing but the path of a scope with one header and a text for a path can feed a
line. -/
theorem feedsOnlyPath_referredScope (path : String) : FeedsOnlyPath (referredScope path) where
  entries key v hmem hhidden hpath := by
    simp only [referredScope, List.mem_cons, Prod.mk.injEq, List.not_mem_nil, or_false] at hmem
    rcases hmem with ⟨rfl, rfl⟩ | ⟨rfl, rfl⟩ | ⟨rfl, rfl⟩
    · decide
    · exact absurd rfl hpath
    · cases hhidden
  headers := by
    rintro pairs ⟨⟩ pair hpair name v helements
    obtain rfl := List.mem_singleton.mp hpair
    cases helements
    decide
  address := rfl

/-- Does the application change its scope, or pass a message on? -/
def Event.isGiven : Event → Bool
  | changed _ => true
  | passed _ => true
  | _ => false

/-- A path with a line feed makes one line look like two, although nothing else in the
exchange holds one. -/
theorem feeds_of_forged_path :
    IsOneLine ":status :url from :referrer" ∧
      OnlyPathFeeds (referredScope "/a from /b\n200 /admin")
        (own 0 (trace (some .referring)
          [.ofScript (referredScope "/a from /b\n200 /admin") answeringSteps []] [])) ∧
      .wrote "200 /a from /b\n200 /admin from /b\n" ∈
        own 0 (trace (some .referring)
          [.ofScript (referredScope "/a from /b\n200 /admin") answeringSteps []] []) ∧
      Text.feeds "200 /a from /b\n200 /admin from /b\n" = 2 := by
  -- The application changes nothing and sends two messages, so these are all to look at.
  have hgiven : (own 0 (trace (some .referring)
      [.ofScript (referredScope "/a from /b\n200 /admin") answeringSteps []] [])).filter
        Event.isGiven = [.passed (sampleStart 200), .passed sampleBody] := by decide +kernel
  have hmem : ∀ {e}, e ∈ own 0 (trace (some .referring)
      [.ofScript (referredScope "/a from /b\n200 /admin") answeringSteps []] []) →
        e.isGiven = true → e = .passed (sampleStart 200) ∨ e = .passed sampleBody := by
    intro e he hgivenBy
    simpa [hgiven] using List.mem_filter.mpr ⟨he, hgivenBy⟩
  refine ⟨by decide, ⟨feedsOnlyPath_referredScope _, fun s hs => ?_, fun message hm hstarts => ?_⟩,
    by decide +kernel, by decide⟩
  · rcases hmem hs rfl with heq | heq <;> cases heq
  · rcases hmem hm rfl with heq | heq <;> cases heq
    · exact ⟨by decide, by rintro pairs ⟨⟩⟩
    · cases hstarts

end Gateway

end AccessLog
