import AccessLog.Proofs.Written

/-!
# The URL of a line

A line shows the URL of its request as the scope has it when the line is emitted
(`shows_url_at_emission`). The requested path is put together from the path and the root
path, so an application that moves a part of the one to the other shows the URL that the
client asked for; the shown URL is the original one just when the scope still has it. One
that an application has rewritten is shown as it was rewritten (`shows_rewritten_url`),
although the path of the entry decides whether the exchange is passed over.
-/

namespace AccessLog

/-- The URL for a root path, a path and a query string. -/
def urlFrom (root path : String) (query : List UInt8) : String :=
  if query = [] then fullPath root path else fullPath root path ++ "?" ++ Text.latin1 query

/-- The scope has texts for its paths and bytes for its query string, and this is its
URL. -/
def HasUrl (scope : Table) (url : String) : Prop :=
  ∃ root path query, scope.get "root_path" = .text root ∧ scope.get "path" = .text path ∧
    scope.get "query_string" = .bytes query ∧ url = urlFrom root path query

theorem HasUrl.unique {scope : Table} {url other : String} (h : HasUrl scope url)
    (h' : HasUrl scope other) : url = other := by
  obtain ⟨root, path, query, hroot, hpath, hquery, rfl⟩ := h
  obtain ⟨root', path', query', hroot', hpath', hquery', rfl⟩ := h'
  obtain rfl := Value.text.inj (hroot.symm.trans hroot')
  obtain rfl := Value.text.inj (hpath.symm.trans hpath')
  obtain rfl := Value.bytes.inj (hquery.symm.trans hquery')
  rfl

theorem Request.urlOf_of_bytes (path : String) (query : List UInt8) :
    urlOf (.text path) (.bytes query) =
      .ok (.text (if query = [] then path else path ++ "?" ++ Text.latin1 query)) := by
  cases query with
  | nil => rfl
  | cons b bs => rfl

/-- The URL of a request is that of the scope from which it is read. -/
theorem Request.url_of_hasUrl {scope : Table} {host : Value} {request : Request}
    (h : ofScope scope host = .ok request) {url : String} (hurl : HasUrl scope url) :
    request.url = .text url := by
  obtain ⟨root, path, query, hroot, hpath, hquery, rfl⟩ := hurl
  have hrequested : requestedPath scope = .ok (.text (fullPath root path)) :=
    requestedPath_of_texts (by rw [hpath, Value.orElse_text]) (by rw [hroot, Value.orElse_text])
  have hread := isReadFrom_of_ofScope h
  have hpathRead : .text (fullPath root path) = request.path :=
    Except.ok.inj (hrequested.symm.trans hread.path)
  have hurlRead := hread.url
  rw [← hpathRead, hquery, urlOf_of_bytes] at hurlRead
  exact (Except.ok.inj hurlRead).symm

/-- A URL token shows the URL of the request. -/
theorem Segment.part_url {e : Exchange} {url : String} (h : e.request.url = .text url)
    {ref : TokenRef} (hkind : ref.kind = .url) : (token ref).part e = url := by
  rw [part_token, hkind, TokenKind.value, h]
  by_cases hempty : url = "" <;> simp [Value.orElse, Value.isTruthy, hempty]

namespace Gateway

/-- Every URL token shows this URL, in the line and in the map of its tokens. -/
def ShowsUrl (t : Template) (e : Exchange) (r : Rendering) (url : String) : Prop :=
  ∀ ref ∈ t.tokens, ref.kind = .url →
    (Segment.token ref).part e = url ∧ r.tokens.get? ref.text = some url

/-- **The URL at the emission.** As long as an application leaves texts in the paths and
bytes in the query string, a line shows the URL that the scope has when the line is
emitted. It is the URL of the entry just when the scope still has that one. -/
theorem shows_url_at_emission (o : Observer) {format : String}
    (hformat : o.template = Template.parse format) {courses : List Course} {i : Nat}
    {scope : Table} {steps : List AppStep} {failing : List Nat}
    (hc : courses[i]? = some (.ofScript scope steps failing)) (schedule : List Signal)
    {url : String} (hurl : HasUrl scope url)
    {text : String} (hwrote : .wrote text ∈ own i (trace (some o) courses schedule)) :
    ∃ before m e r, WritesAt o scope (own i (trace (some o) courses schedule)) before m e r text ∧
      ((∀ s, .changed s ∈ before → ∃ u, HasUrl s u) →
        ∃ shown, HasUrl (scopeAfter scope before) shown ∧ ShowsUrl o.template e r shown ∧
          (shown = url ↔ HasUrl (scopeAfter scope before) url)) := by
  obtain ⟨before, m, e, r, hwrites⟩ := exists_writesAt o hc schedule hwrote
  refine ⟨before, m, e, r, hwrites, fun hchanged => ?_⟩
  obtain ⟨shown, hshown⟩ : ∃ shown, HasUrl (scopeAfter scope before) shown := by
    rcases scopeAfter_eq_or_mem scope before with heq | hmem
    · exact ⟨url, heq.symm ▸ hurl⟩
    · exact hchanged _ hmem
  obtain ⟨host, -, hrequest⟩ := hwrites.request
  have hrequestUrl := Request.url_of_hasUrl hrequest hshown
  refine ⟨shown, hshown, fun ref href hkind => ?_, ?_⟩
  · have hpart := Segment.part_url hrequestUrl hkind
    have hrendered := hwrites.rendered
    rw [hformat] at hrendered href
    exact ⟨hpart, hpart ▸ Template.get?_tokens_of_render hrendered href⟩
  · exact ⟨fun heq => heq ▸ hshown, fun hstill => hshown.unique hstill⟩

/-- An observer that shows the URL. -/
def Observer.locating : Observer where
  template := Template.parse "to :url"
  blacklist := []
  clock n := .tick (.int n)
  callback := some fun _ _ => none
  sink _ _ := none

/-- The scope of a request for a path, with a query. -/
def locatedScope : Table :=
  [(.text "type", .text "http"), (.text "path", .text "/api/items"), (.text "root_path", .text ""),
    (.text "query_string", .bytes [112, 61, 50])]

/-- An application that is mounted under a root path. -/
def mountedSteps : List AppStep :=
  [⟨.assign [.text "root_path"] (.text "/api"), false⟩, ⟨.send (sampleStart 200), false⟩,
    ⟨.send sampleBody, false⟩]

theorem hasUrl_locatedScope : HasUrl locatedScope "/api/items?p=2" :=
  ⟨"", "/api/items", [112, 61, 50], rfl, rfl, rfl, by decide⟩

theorem shows_url_at_emission_of_mounted :
    HasUrl locatedScope "/api/items?p=2" ∧
      ∃ before m e r, WritesAt .locating locatedScope
          (own 0 (trace (some .locating) [.ofScript locatedScope mountedSteps []] [])) before m e r
          "to /api/items?p=2\n" ∧
        ((∀ s, .changed s ∈ before → ∃ u, HasUrl s u) →
          ∃ shown, HasUrl (scopeAfter locatedScope before) shown ∧
            ShowsUrl Observer.locating.template e r shown ∧
            (shown = "/api/items?p=2" ↔
              HasUrl (scopeAfter locatedScope before) "/api/items?p=2")) :=
  ⟨hasUrl_locatedScope,
    shows_url_at_emission .locating rfl rfl [] hasUrl_locatedScope (by decide +kernel)⟩

/-- An application that rewrites the path. -/
def rewritingSteps : List AppStep :=
  [⟨.assign [.text "path"] (.text "/inner"), false⟩, ⟨.send (sampleStart 200), false⟩,
    ⟨.send sampleBody, false⟩]

/-- A path that an application has rewritten is shown in place of the one that the client
asked for. -/
theorem shows_rewritten_url :
    HasUrl locatedScope "/api/items?p=2" ∧
      (own 0 (trace (some .locating) [.ofScript locatedScope rewritingSteps []] [])).filter
        Event.isWrote = [.wrote "to /inner?p=2\n"] :=
  ⟨hasUrl_locatedScope, by decide +kernel⟩

end Gateway

end AccessLog
