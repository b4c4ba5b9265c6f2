import AccessLog.Proofs.OneLine
import AccessLog.Proofs.Rendering

/-!
# Tokens without a line feed

A token shows one line as long as what it is read from holds no line feed: the values of
the headers, the properties, the addresses, and the status. That is asked of the scope
of a request (`FeedsOnlyPath`) for everything but its path, which is decoded before it is
handed over; only two tokens show the path (`TokenRef.ShowsPath`), and all others are
one line then (`Segment.isOneLine_part`).
-/

namespace AccessLog

open Text (IsOneLine)

/-! ## Headers -/

namespace Headers

/-- No value of the headers holds a line feed. -/
def AreOneLine (headers : Headers) : Prop :=
  ∀ name group, headers.get? name = some group → ∀ v ∈ group, v.isOneLine = true

/-- No value holds a line feed in a collection of pairs that is read as headers. -/
def PairsAreOneLine (raw : Value) : Prop :=
  ∀ pairs, raw.elements = .ok pairs → ∀ pair ∈ pairs, ∀ name v,
    pair.elements = .ok [name, v] → v.isOneLine = true

theorem AreOneLine.add {headers : Headers} (h : headers.AreOneLine) {v : Value}
    (hv : v.isOneLine = true) (name : String) : (headers.add name v).AreOneLine := by
  intro other group hgroup w hw
  rw [get?_add] at hgroup
  split at hgroup
  · obtain rfl := Option.some.inj hgroup
    rcases List.mem_append.mp hw with hw | hw
    · cases hname : headers.get? name with
      | none => simp [hname] at hw
      | some values => exact h name values hname w (by simpa [hname] using hw)
    · rwa [List.mem_singleton.mp hw]
  · exact h other group hgroup w hw

theorem isOneLine_of_readPair {pair : Value} {name text : String}
    (h : readPair pair = .ok (name, text))
    (hpair : ∀ name v, pair.elements = .ok [name, v] → v.isOneLine = true) : IsOneLine text := by
  obtain ⟨elements, helements, h⟩ := exists_of_bind_eq_ok h
  split at h
  · rename_i key v
    obtain ⟨shownKey, -, h⟩ := exists_of_bind_eq_ok h
    obtain ⟨shown, hshown, h⟩ := exists_of_bind_eq_ok h
    cases h
    exact Value.isOneLine_of_decoded (hpair key v helements) hshown
  · cases h

theorem AreOneLine.addAll {pairs : List Value}
    (hpairs : ∀ pair ∈ pairs, ∀ name v, pair.elements = .ok [name, v] → v.isOneLine = true) :
    ∀ {headers headers' : Headers}, headers.AreOneLine → addAll headers pairs = .ok headers' →
      headers'.AreOneLine := by
  induction pairs with
  | nil =>
      intro headers headers' h hadd
      obtain rfl := Except.ok.inj hadd
      exact h
  | cons pair rest ih =>
      intro headers headers' h hadd
      obtain ⟨⟨name, text⟩, hread, hadd⟩ := exists_of_bind_eq_ok hadd
      have htext := isOneLine_of_readPair hread (hpairs pair (List.mem_cons_self ..))
      exact ih (fun p hp => hpairs p (List.mem_cons_of_mem _ hp))
        (h.add (Value.isOneLine_text.mpr htext) name) hadd

theorem areOneLine_of_decode {raw : Value} (hraw : PairsAreOneLine raw) {headers : Headers}
    (h : decode raw = .ok headers) : headers.AreOneLine := by
  have hnil : AreOneLine [] := nofun
  unfold decode at h
  split at h
  · obtain ⟨pairs, hpairs, h⟩ := exists_of_bind_eq_ok h
    exact hnil.addAll (hraw pairs hpairs) h
  · obtain rfl := Except.ok.inj h
    exact hnil

theorem isOneLine_of_allTexts :
    ∀ {values : List Value} {texts : List String}, (∀ v ∈ values, v.isOneLine = true) →
      allTexts values = .ok texts → ∀ text ∈ texts, IsOneLine text
  | [], _, _, h => by
      obtain rfl := Except.ok.inj h
      simp
  | .text s :: rest, _, hvalues, h => by
      obtain ⟨texts, htexts, h⟩ := exists_of_bind_eq_ok h
      cases h
      have hrest := isOneLine_of_allTexts (fun v hv => hvalues v (List.mem_cons_of_mem _ hv)) htexts
      exact List.forall_mem_cons.mpr
        ⟨Value.isOneLine_text.mp (hvalues _ (List.mem_cons_self ..)), hrest⟩

/-- What a field shows is one line when the headers are. -/
theorem AreOneLine.field? {headers : Headers} (h : headers.AreOneLine) {name shown : String}
    (hfield : headers.field? name = .ok (some shown)) : IsOneLine shown := by
  unfold Headers.field? at hfield
  split at hfield
  · cases hfield
  · cases hfield
  · rename_i values _ hget
    obtain ⟨texts, htexts, hfield⟩ := exists_of_bind_eq_ok hfield
    cases hfield
    exact Text.isOneLine_intercalate (by decide) (isOneLine_of_allTexts (h _ _ hget) htexts)

end Headers

/-! ## Properties -/

namespace Property

/-- Parts that are shown together are one line when each of them is. -/
theorem isOneLine_of_joinAll {rendered : Except Fault (List (Option String))} {s : String}
    (hparts : ∀ parts, rendered = .ok parts → ∀ part, some part ∈ parts → IsOneLine part)
    (h : rendered.map joinAll = .ok (some s)) : IsOneLine s := by
  obtain ⟨parts, hrendered, hjoin⟩ := exists_of_map_eq_ok h
  unfold joinAll at hjoin
  split at hjoin
  · obtain rfl := Option.some.inj hjoin
    refine Text.isOneLine_intercalate (by decide) fun part hpart => ?_
    exact hparts parts hrendered part (by simpa using hpart)
  · cases hjoin

mutual

/-- What is shown of a value that holds no line feed holds none. -/
theorem isOneLine_of_render : (v : Value) → v.isOneLine = true →
    ∀ s, render v = .ok (some s) → IsOneLine s
  | .bytes bs, hv => by
      rintro s ⟨⟩
      exact Text.isOneLine_latin1 (by simpa [Value.isOneLine] using hv)
  | .text t, hv => by
      rintro s ⟨⟩
      exact Value.isOneLine_text.mp hv
  | .int n, _ => by
      intro s h
      rw [render] at h
      obtain ⟨text, hn, heq⟩ := exists_of_map_eq_ok h
      cases heq
      exact Value.isOneLine_of_intDisplay hn
  | .float x, _ => by rintro s ⟨⟩; exact x.isOneLine_text
  | .list vs, hv => fun s h =>
      isOneLine_of_joinAll (isOneLine_of_renderAll vs hv) (by rwa [render] at h)
  | .tuple vs, hv => fun s h =>
      isOneLine_of_joinAll (isOneLine_of_renderAll vs hv) (by rwa [render] at h)
  | .null, _ => by rintro s ⟨⟩
  | .bool b, _ => by rintro s ⟨⟩
  | .buffer bs, _ => by rintro s ⟨⟩
  | .table es, _ => by rintro s ⟨⟩
  | .object name, _ => by rintro s ⟨⟩

theorem isOneLine_of_renderAll : (vs : List Value) → Value.allOneLine vs = true →
    ∀ parts, renderAll vs = .ok parts → ∀ part, some part ∈ parts → IsOneLine part
  | [], _ => by rintro parts ⟨⟩; simp
  | v :: vs, hvs => by
      intro parts h part hpart
      obtain ⟨head, hhead, h⟩ := exists_of_bind_eq_ok h
      obtain ⟨tail, htail, h⟩ := exists_of_bind_eq_ok h
      cases h
      simp only [Value.allOneLine, Bool.and_eq_true] at hvs
      rcases List.mem_cons.mp hpart with rfl | hpart
      · exact isOneLine_of_render v hvs.1 part hhead
      · exact isOneLine_of_renderAll vs hvs.2 tail htail part hpart

end

/-- The property of this name is shown from an entry of the scope. -/
def IsShownFrom (scope : Table) (name shown : String) : Prop :=
  ∃ key v, (.text key, v) ∈ scope ∧ isHidden (.text key) = false ∧ Text.lower key = name ∧
    render v = .ok (some shown)

theorem isShownFrom_of_addEntry {properties properties' : Named String} {key v : Value}
    (h : addEntry properties key v = .ok properties') {name shown : String}
    (hget : properties'.get? name = some shown) :
    properties.get? name = some shown ∨ IsShownFrom [(key, v)] name shown := by
  unfold addEntry at h
  cases hhidden : isHidden key with
  | true =>
      simp only [hhidden, if_true] at h
      cases h
      exact Or.inl hget
  | false =>
      simp only [hhidden, Bool.false_eq_true, if_false] at h
      obtain ⟨rendered, hrendered, h⟩ := exists_of_bind_eq_ok h
      cases rendered with
      | none =>
          cases h
          exact Or.inl hget
      | some text =>
          cases key with
          | text k =>
              cases h
              rw [Named.get?_set] at hget
              split at hget
              · rename_i hname
                obtain rfl := Option.some.inj hget
                exact Or.inr ⟨k, v, List.mem_singleton_self _, hhidden, hname.symm, hrendered⟩
              · exact Or.inl hget
          | bytes bs =>
              cases h
              exact Or.inl hget
          | _ => cases h

/-- Every property is shown from an entry of the scope, or was there before. -/
theorem isShownFrom_of_addAll {scope : Table} :
    ∀ {properties properties' : Named String}, addAll properties scope = .ok properties' →
      ∀ {name shown : String}, properties'.get? name = some shown →
        properties.get? name = some shown ∨ IsShownFrom scope name shown := by
  induction scope with
  | nil =>
      intro properties properties' h name shown hget
      obtain rfl := Except.ok.inj h
      exact Or.inl hget
  | cons entry rest ih =>
      intro properties properties' h name shown hget
      obtain ⟨next, hnext, h⟩ := exists_of_bind_eq_ok h
      rcases ih h hget with hget | ⟨key, v, hmem, hshown⟩
      · refine (isShownFrom_of_addEntry hnext hget).imp_right ?_
        rintro ⟨key, v, hmem, hshown⟩
        exact ⟨key, v, List.mem_singleton.mp hmem ▸ List.mem_cons_self .., hshown⟩
      · exact Or.inr ⟨key, v, List.mem_cons_of_mem _ hmem, hshown⟩

theorem isShownFrom_of_ofScope {scope : Table} {properties : Named String}
    (h : ofScope scope = .ok properties) {name shown : String}
    (hget : properties.get? name = some shown) : IsShownFrom scope name shown :=
  (isShownFrom_of_addAll h hget).resolve_left nofun

end Property

/-! ## Requests and responses -/

/-- Of what a line can show of a scope, the path alone may hold a line feed. -/
structure FeedsOnlyPath (scope : Table) : Prop where
  entries : ∀ key v, (key, v) ∈ scope → Property.isHidden key = false → key ≠ .text "path" →
    v.isOneLine = true
  headers : Headers.PairsAreOneLine (scope.get "headers")
  address : (Request.stateAddress scope).isOneLine = true

/-- The path of a scope holds no line feed. -/
def PathIsOneLine (scope : Table) : Prop := ∀ v, (.text "path", v) ∈ scope → v.isOneLine = true

theorem Table.isOneLine_get {t : Table} {name : String}
    (h : ∀ v, (.text name, v) ∈ t → v.isOneLine = true) : (t.get name).isOneLine = true := by
  unfold get
  cases hv : t.get? name with
  | none => rfl
  | some v => exact h v (mem_of_get? hv)

theorem FeedsOnlyPath.get {scope : Table} (h : FeedsOnlyPath scope) (name : String)
    (hname : Property.isHidden (.text name) = false ∧ name ≠ "path" := by decide) :
    (scope.get name).isOneLine = true :=
  Table.isOneLine_get fun v hv =>
    h.entries _ v hv hname.1 fun heq => hname.2 (Value.text.inj heq)

theorem isOneLine_clientHost {scope : Table} (h : FeedsOnlyPath scope) {host : Value}
    (hhost : clientHost scope = .ok host) : host.isOneLine = true := by
  unfold clientHost at hhost
  dsimp only at hhost
  split at hhost
  · exact Value.isOneLine_of_item (h.get "client") hhost
  · cases hhost
    rfl

theorem isOneLine_fullPath {root path : String} (hroot : IsOneLine root) (hpath : IsOneLine path) :
    IsOneLine (fullPath root path) := by
  unfold fullPath
  split
  · exact hpath
  · exact hroot.append hpath

theorem isOneLine_requestedPath {scope : Table} (h : FeedsOnlyPath scope)
    (hpath : PathIsOneLine scope) {path : Value} (hrequested : requestedPath scope = .ok path) :
    path.isOneLine = true := by
  have hempty : (Value.text "").isOneLine = true := by decide
  have hp := Value.isOneLine_orElse (Table.isOneLine_get hpath) hempty
  have hr := Value.isOneLine_orElse (h.get "root_path") hempty
  unfold requestedPath at hrequested
  dsimp only at hrequested
  split at hrequested
  · cases hrequested
    exact hp
  · split at hrequested
    · rename_i p r hpeq hreq
      cases hrequested
      rw [hpeq] at hp
      rw [hreq] at hr
      exact Value.isOneLine_text.mpr
        (isOneLine_fullPath (Value.isOneLine_text.mp hr) (Value.isOneLine_text.mp hp))
    all_goals cases hrequested

theorem Request.isOneLine_urlOf {path query url : Value} (hpath : path.isOneLine = true)
    (hquery : query.isOneLine = true) (h : urlOf path query = .ok url) : url.isOneLine = true := by
  unfold urlOf at h
  split at h
  · cases h
    exact hpath
  · obtain ⟨shown, hshown, h⟩ := exists_of_bind_eq_ok h
    have hstart := (Value.isOneLine_of_display hpath hshown).append (t := "?") (by decide)
    split at h
    · cases h
      exact Value.isOneLine_text.mpr
        (hstart.append (Text.isOneLine_latin1 (by simpa [Value.isOneLine] using hquery)))
    · cases h
      exact Value.isOneLine_text.mpr
        (hstart.append (Text.isOneLine_latin1 (by simpa [Value.isOneLine] using hquery)))
    · cases h

theorem Request.isOneLine_addressText {address shown : Value} (haddress : address.isOneLine = true)
    (h : addressText address = .ok shown) : shown.isOneLine = true := by
  unfold addressText at h
  split at h
  · obtain ⟨text, hdisplay, rfl⟩ := exists_of_map_eq_ok h
    exact Value.isOneLine_text.mpr (Value.isOneLine_of_display haddress hdisplay)
  · cases h
    rfl

/-- Of a request, only what shows the path may hold a line feed. -/
structure Request.FeedsOnlyPath (request : Request) : Prop where
  method : request.method.isOneLine = true
  httpVersion : request.httpVersion.isOneLine = true
  headers : request.headers.AreOneLine
  properties : ∀ name shown, request.properties.get? name = some shown → name ≠ "path" →
    IsOneLine shown
  ip : request.ip.isOneLine = true
  remoteAddress : request.remoteAddress.isOneLine = true
  peerAddress : request.peerAddress.isOneLine = true

/-- What shows the path of a request holds no line feed. -/
structure Request.PathIsOneLine (request : Request) : Prop where
  url : request.url.isOneLine = true
  property : ∀ shown, request.properties.get? "path" = some shown → IsOneLine shown

/-- What is read from a scope feeds lines only as the scope does. -/
theorem Request.IsReadFrom.feedsOnlyPath {scope : Table} {host : Value} {request : Request}
    (h : request.IsReadFrom scope host) (hscope : AccessLog.FeedsOnlyPath scope)
    (hhost : host.isOneLine = true) : request.FeedsOnlyPath where
  method := by
    rw [h.method]
    cases hmethod : scope.get? "method" with
    | none => decide
    | some v => exact hscope.entries _ v (Table.mem_of_get? hmethod) (by decide) (by decide)
  httpVersion := h.httpVersion ▸ hscope.get "http_version"
  headers := Headers.areOneLine_of_decode hscope.headers h.headers
  properties name shown hget hname := by
    obtain ⟨key, v, hmem, hhidden, hlower, hrender⟩ :=
      Property.isShownFrom_of_ofScope h.properties hget
    refine Property.isOneLine_of_render v (hscope.entries _ v hmem hhidden ?_) shown hrender
    intro hkey
    obtain rfl := Value.text.inj hkey
    exact hname (hlower.symm.trans (by decide))
  ip := isOneLine_addressText hscope.address h.ip
  remoteAddress := h.remoteAddress ▸ hhost
  peerAddress := isOneLine_clientHost hscope h.peerAddress

theorem Request.IsReadFrom.pathIsOneLine {scope : Table} {host : Value} {request : Request}
    (h : request.IsReadFrom scope host) (hscope : AccessLog.FeedsOnlyPath scope)
    (hpath : AccessLog.PathIsOneLine scope) : request.PathIsOneLine where
  url := isOneLine_urlOf (isOneLine_requestedPath hscope hpath h.path) (hscope.get "query_string")
    h.url
  property shown hget := by
    obtain ⟨key, v, hmem, hhidden, -, hrender⟩ := Property.isShownFrom_of_ofScope h.properties hget
    refine Property.isOneLine_of_render v ?_ shown hrender
    by_cases hkey : key = "path"
    · exact hpath v (hkey ▸ hmem)
    · exact hscope.entries _ v hmem hhidden fun heq => hkey (Value.text.inj heq)

/-- A response whose status and headers hold no line feed. -/
structure Response.IsOneLine (response : Response) : Prop where
  status : response.status.isOneLine = true
  headers : response.headers.AreOneLine

theorem Response.isOneLine_none : Response.none.IsOneLine := ⟨rfl, nofun⟩

/-! ## Tokens -/

/-- Does the token show the path of the request? -/
def TokenRef.ShowsPath (ref : TokenRef) : Prop :=
  ref.kind = .url ∨ ref.kind = .requestField ∧ ref.key = some "path"

namespace Resolve

theorem isOneLine_of_status {response : Response} (h : response.IsOneLine) {s : String}
    (hs : status response = .ok (.text s)) : IsOneLine s := by
  unfold status at hs
  split at hs
  · cases hs
  · obtain ⟨text, hdisplay, heq⟩ := exists_of_map_eq_ok hs
    cases heq
    exact Value.isOneLine_of_display h.status hdisplay

/-- A time is one line whatever the ticks are. -/
theorem isOneLine_of_timeTo {marks : Marks} {tick : Value} {s : String}
    (hs : timeTo marks tick = .ok (.text s)) : IsOneLine s := by
  unfold timeTo at hs
  split at hs
  · cases hs
  · obtain ⟨text, htext, hs⟩ := exists_of_bind_eq_ok hs
    cases hs
    exact Duration.isOneLine_ofTicks htext

theorem isOneLine_of_responseTime {marks : Marks} {s : String}
    (hs : responseTime marks = .ok (.text s)) : IsOneLine s := by
  unfold responseTime at hs
  split at hs
  · cases hs
  · exact isOneLine_of_timeTo hs

theorem isOneLine_of_ofText? {headers : Headers} (h : headers.AreOneLine) (name : String)
    {s : String} (hs : (headers.field? name).map ofText? = .ok (.text s)) : IsOneLine s := by
  obtain ⟨shown, hfield, heq⟩ := exists_of_map_eq_ok hs
  cases shown with
  | none => cases heq
  | some text =>
      cases heq
      exact h.field? hfield

theorem isOneLine_of_referrer {headers : Headers} (h : headers.AreOneLine) {s : String}
    (hs : referrer headers = .ok (.text s)) : IsOneLine s := by
  obtain ⟨shown, hshown, hs⟩ := exists_of_bind_eq_ok hs
  cases shown with
  | none => exact isOneLine_of_ofText? h "referrer" hs
  | some text =>
      dsimp only at hs
      split at hs
      · exact isOneLine_of_ofText? h "referrer" hs
      · cases hs
        exact h.field? hshown

theorem isOneLine_of_requestField {request : Request} (h : request.FeedsOnlyPath) {key s : String}
    (hpath : key = "path" → request.PathIsOneLine)
    (hs : requestField request key = .ok (.text s)) : IsOneLine s := by
  obtain ⟨shown, hshown, hs⟩ := exists_of_bind_eq_ok hs
  cases shown with
  | some text =>
      cases hs
      exact h.headers.field? hshown
  | none =>
      cases hs
      cases hproperty : request.properties.get? key with
      | none => decide
      | some text =>
          by_cases hkey : key = "path"
          · exact (hpath hkey).property text (hkey ▸ hproperty)
          · exact h.properties key text hproperty hkey

theorem isOneLine_of_responseField {response : Response} (h : response.IsOneLine) {key s : String}
    (hs : responseField response key = .ok (.text s)) : IsOneLine s := by
  obtain ⟨shown, hshown, hs⟩ := exists_of_bind_eq_ok hs
  cases hs
  cases shown with
  | none => decide
  | some text => exact h.headers.field? hshown

end Resolve

/-- What a token shows is one line, unless it shows a path that is not. -/
theorem TokenKind.isOneLine_value {e : Exchange} (hrequest : e.request.FeedsOnlyPath)
    (hresponse : e.response.IsOneLine) {ref : TokenRef}
    (hpath : ref.ShowsPath → e.request.PathIsOneLine) {s : String}
    (h : ref.kind.value ref.key e = .ok (.text s)) : IsOneLine s := by
  have hshown : ∀ {v : Value}, v.isOneLine = true →
      (Except.ok v : Except Fault Value) = .ok (.text s) → IsOneLine s := by
    rintro v hv ⟨⟩
    exact Value.isOneLine_text.mp hv
  cases hkind : ref.kind with
  | url =>
      rw [hkind] at h
      exact hshown (Value.isOneLine_orElse (hpath (Or.inl hkind)).url rfl) h
  | method =>
      rw [hkind] at h
      exact hshown (Value.isOneLine_orElse hrequest.method rfl) h
  | status => rw [hkind] at h; exact Resolve.isOneLine_of_status hresponse h
  | responseTime => rw [hkind] at h; exact Resolve.isOneLine_of_responseTime h
  | totalTime => rw [hkind] at h; exact Resolve.isOneLine_of_timeTo h
  | httpVersion => rw [hkind] at h; exact hshown hrequest.httpVersion h
  | referrer => rw [hkind] at h; exact Resolve.isOneLine_of_referrer hrequest.headers h
  | remoteAddress =>
      rw [hkind] at h
      exact hshown (Value.isOneLine_orElse hrequest.ip
        (Value.isOneLine_orElse hrequest.remoteAddress hrequest.peerAddress)) h
  | userAgent => rw [hkind] at h; exact Resolve.isOneLine_of_ofText? hrequest.headers _ h
  | requestField =>
      rw [hkind] at h
      unfold value at h
      dsimp only at h
      split at h
      · cases h
        decide
      · refine Resolve.isOneLine_of_requestField hrequest (fun hkey => ?_) h
        refine hpath (Or.inr ⟨hkind, ?_⟩)
        cases hk : ref.key with
        | none => simp [hk] at hkey
        | some key => rw [hk] at hkey; exact congrArg some hkey
  | responseField =>
      rw [hkind] at h
      unfold value at h
      dsimp only at h
      split at h
      · cases h
        decide
      · exact Resolve.isOneLine_of_responseField hresponse h

theorem Segment.isOneLine_part {e : Exchange} (hrequest : e.request.FeedsOnlyPath)
    (hresponse : e.response.IsOneLine) {ref : TokenRef}
    (hpath : ref.ShowsPath → e.request.PathIsOneLine) : IsOneLine ((token ref).part e) := by
  rw [part_token]
  split
  · rename_i h
    exact TokenKind.isOneLine_value hrequest hresponse hpath h
  · decide

end AccessLog
