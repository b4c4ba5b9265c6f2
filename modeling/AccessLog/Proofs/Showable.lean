import AccessLog.Proofs.Fields
import AccessLog.Proofs.TokenMap

/-!
# Exchanges that can be shown

Of what may stand in a scope, only an integer with too many digits cannot be put into words
(`Value.isWritable`). A scope is well formed when the entries that the library knows have
the types that a server gives them, whatever the others are. The facts of a request can
then be read (`Table.IsWellFormed.exists_request`), and every token resolves to a text or to
nothing: a value that cannot be found out counts as missing. So any format can be rendered
(`Request.IsShowable.exists_render`).
-/

namespace AccessLog

/-- Nothing fails when one thing does not, and what comes after it does not either. -/
theorem exists_bind_eq_ok {α β : Type} {x : Except Fault α} {f : α → Except Fault β}
    (hx : ∃ a, x = .ok a) (hf : ∀ a, x = .ok a → ∃ b, f a = .ok b) : ∃ b, (x >>= f) = .ok b := by
  obtain ⟨a, rfl⟩ := hx
  exact hf a rfl

theorem exists_map_eq_ok {α β : Type} {x : Except Fault α} (f : α → β) (hx : ∃ a, x = .ok a) :
    ∃ b, x.map f = .ok b := by
  obtain ⟨a, rfl⟩ := hx
  exact ⟨f a, rfl⟩

/-! ## Values -/

namespace Value

mutual

/-- Has every integer in the value a text? -/
def isWritable : Value → Bool
  | .int n => (intDisplay n).toOption.isSome
  | .list vs => allWritable vs
  | .tuple vs => allWritable vs
  | .table es => entriesWritable es
  | _ => true

def allWritable : List Value → Bool
  | [] => true
  | v :: vs => isWritable v && allWritable vs

def entriesWritable : List (Value × Value) → Bool
  | [] => true
  | (k, v) :: es => isWritable k && (isWritable v && entriesWritable es)

end

/-- An integer is writable when it keeps to the digit limit. -/
theorem isWritable_int_iff {n : Int} :
    (int n).isWritable = true ↔ n.natAbs < Nat.pow 10 Number.digitLimit := by
  unfold isWritable intDisplay Number.intText?
  by_cases h : n.natAbs < Nat.pow 10 Number.digitLimit
  · rw [if_pos h]
    exact iff_of_true rfl h
  · rw [if_neg h]
    exact iff_of_false Bool.false_ne_true h

theorem intDisplay_of_lt {n : Int} (h : n.natAbs < Nat.pow 10 Number.digitLimit) :
    intDisplay n = .ok (Number.intText n) := by
  unfold intDisplay Number.intText?
  rw [if_pos h]

theorem intDisplay_of_not_lt {n : Int} (h : ¬ n.natAbs < Nat.pow 10 Number.digitLimit) :
    intDisplay n = .error .malformed := by
  unfold intDisplay Number.intText?
  rw [if_neg h]

theorem exists_intDisplay {n : Int} (h : (int n).isWritable = true) :
    ∃ s, intDisplay n = .ok s := by
  rw [isWritable] at h
  cases hdisplay : intDisplay n with
  | error cause => rw [hdisplay] at h; cases h
  | ok s => exact ⟨s, rfl⟩

mutual

/-- A writable value has a text inside another value. -/
theorem exists_quoted : (v : Value) → v.isWritable = true → ∃ s, quoted v = .ok s
  | .null => fun _ => ⟨_, rfl⟩
  | .bool b => fun _ => ⟨_, rfl⟩
  | .int n => fun h => by
      rw [quoted]
      exact exists_intDisplay h
  | .float x => fun _ => ⟨_, rfl⟩
  | .text s => fun _ => ⟨_, rfl⟩
  | .bytes bs => fun _ => ⟨_, rfl⟩
  | .buffer bs => fun _ => ⟨_, rfl⟩
  | .object name => fun _ => ⟨_, rfl⟩
  | .list vs => fun h => by
      rw [quoted]
      exact exists_bind_eq_ok (exists_quotedAll vs h) fun _ _ => ⟨_, rfl⟩
  | .tuple [] => fun _ => ⟨_, rfl⟩
  | .tuple [v] => fun h => by
      rw [isWritable, allWritable, Bool.and_eq_true] at h
      rw [quoted]
      exact exists_bind_eq_ok (exists_quoted v h.1) fun _ _ => ⟨_, rfl⟩
  | .tuple (v :: w :: vs) => fun h => by
      rw [quoted]
      · exact exists_bind_eq_ok (exists_quotedAll (v :: w :: vs) h) fun _ _ => ⟨_, rfl⟩
      · rintro _ ⟨⟩
  | .table es => fun h => by
      rw [quoted]
      exact exists_bind_eq_ok (exists_quotedEntries es h) fun _ _ => ⟨_, rfl⟩

theorem exists_quotedAll : (vs : List Value) → allWritable vs = true →
    ∃ parts, quotedAll vs = .ok parts
  | [] => fun _ => ⟨_, rfl⟩
  | v :: vs => fun h => by
      rw [allWritable, Bool.and_eq_true] at h
      rw [quotedAll]
      exact exists_bind_eq_ok (exists_quoted v h.1) fun _ _ =>
        exists_bind_eq_ok (exists_quotedAll vs h.2) fun _ _ => ⟨_, rfl⟩

theorem exists_quotedEntries : (es : List (Value × Value)) → entriesWritable es = true →
    ∃ parts, quotedEntries es = .ok parts
  | [] => fun _ => ⟨_, rfl⟩
  | (k, v) :: es => fun h => by
      rw [entriesWritable, Bool.and_eq_true, Bool.and_eq_true] at h
      rw [quotedEntries]
      exact exists_bind_eq_ok (exists_quoted k h.1) fun _ _ =>
        exists_bind_eq_ok (exists_quoted v h.2.1) fun _ _ =>
          exists_bind_eq_ok (exists_quotedEntries es h.2.2) fun _ _ => ⟨_, rfl⟩

end

/-- A writable value has a text of its own. -/
theorem exists_display {v : Value} (h : v.isWritable = true) : ∃ s, v.display = .ok s := by
  cases v with
  | text s => exact ⟨s, rfl⟩
  | _ => exact exists_quoted _ h

theorem isWritable_of_mem_entries {k v : Value} :
    ∀ {es : List (Value × Value)}, entriesWritable es = true → (k, v) ∈ es → v.isWritable = true
  | [], _, hmem => by cases hmem
  | (l, w) :: es, h, hmem => by
      rw [entriesWritable, Bool.and_eq_true, Bool.and_eq_true] at h
      rcases List.mem_cons.mp hmem with heq | hmem
      · cases heq
        exact h.2.1
      · exact isWritable_of_mem_entries h.2.2 hmem

theorem isTextOrNull_text (s : String) : (text s).IsTextOrNull := Or.inr ⟨s, rfl⟩

theorem IsTextOrNull.orElse {v w : Value} (hv : v.IsTextOrNull) (hw : w.IsTextOrNull) :
    (v.orElse w).IsTextOrNull := by
  unfold Value.orElse
  split
  · exact hv
  · exact hw

/-- A text in the place of one that is missing. -/
theorem IsTextOrNull.orElse_text {v : Value} (h : v.IsTextOrNull) (s : String) :
    ∃ t, v.orElse (.text s) = .text t := by
  rcases h with rfl | ⟨t, rfl⟩
  · exact ⟨s, rfl⟩
  · unfold Value.orElse
    split
    · exact ⟨t, rfl⟩
    · exact ⟨s, rfl⟩

end Value

/-! ## Scopes -/

namespace Property

mutual

/-- Whether a writable value is shown can be told. -/
theorem exists_render : (v : Value) → v.isWritable = true → ∃ shown, render v = .ok shown
  | .null => fun _ => ⟨_, rfl⟩
  | .bool b => fun _ => ⟨_, rfl⟩
  | .int n => fun h => by
      rw [render]
      exact exists_map_eq_ok _ (Value.exists_intDisplay h)
  | .float x => fun _ => ⟨_, rfl⟩
  | .text s => fun _ => ⟨_, rfl⟩
  | .bytes bs => fun _ => ⟨_, rfl⟩
  | .buffer bs => fun _ => ⟨_, rfl⟩
  | .object name => fun _ => ⟨_, rfl⟩
  | .table es => fun _ => ⟨_, rfl⟩
  | .list vs => fun h => by
      rw [render]
      exact exists_map_eq_ok _ (exists_renderAll vs h)
  | .tuple vs => fun h => by
      rw [render]
      exact exists_map_eq_ok _ (exists_renderAll vs h)

theorem exists_renderAll : (vs : List Value) → Value.allWritable vs = true →
    ∃ parts, renderAll vs = .ok parts
  | [] => fun _ => ⟨_, rfl⟩
  | v :: vs => fun h => by
      rw [Value.allWritable, Bool.and_eq_true] at h
      rw [renderAll]
      exact exists_bind_eq_ok (exists_render v h.1) fun _ _ =>
        exists_bind_eq_ok (exists_renderAll vs h.2) fun _ _ => ⟨_, rfl⟩

end

theorem exists_addEntry (properties : Named String) (name : String) {v : Value}
    (h : v.isWritable = true) :
    ∃ properties', addEntry properties (.text name) v = .ok properties' := by
  unfold addEntry
  split
  · exact ⟨_, rfl⟩
  · refine exists_bind_eq_ok (exists_render v h) fun shown _ => ?_
    cases shown with
    | none => exact ⟨_, rfl⟩
    | some s => exact ⟨_, rfl⟩

theorem exists_addAll {scope : Table}
    (h : ∀ e ∈ scope, (∃ name, e.1 = .text name) ∧ e.2.isWritable = true) :
    ∀ properties, ∃ properties', addAll properties scope = .ok properties' := by
  induction scope with
  | nil => exact fun properties => ⟨properties, rfl⟩
  | cons entry rest ih =>
      intro properties
      obtain ⟨key, v⟩ := entry
      obtain ⟨⟨⟨name, rfl⟩, hv⟩, hrest⟩ := List.forall_mem_cons.mp h
      rw [addAll]
      exact exists_bind_eq_ok (exists_addEntry properties name hv) fun _ _ => ih hrest _

end Property

/-- The address of a client: none, or a host and whatever comes with it. -/
def Value.IsAddress (v : Value) : Prop :=
  v = .null ∨ ∃ host port, v = .tuple [.text host, port] ∨ v = .list [.text host, port]

/-- A scope whose known entries have the types that a server gives them. Whatever else it
holds can be put into words. -/
structure Table.IsWellFormed (scope : Table) : Prop where
  keys : ∀ e ∈ scope, ∃ name, e.1 = .text name
  values : ∀ e ∈ scope, e.2.isWritable = true
  path : (scope.get "path").IsTextOrNull
  rootPath : (scope.get "root_path").IsTextOrNull
  method : (scope.get "method").IsTextOrNull
  httpVersion : (scope.get "http_version").IsTextOrNull
  query : scope.get "query_string" = .null ∨ ∃ bs, scope.get "query_string" = .bytes bs
  headers : ∃ fields, Headers.Lists (scope.get "headers") fields
  client : (scope.get "client").IsAddress

/-- A request of which every fact can be shown or left out. -/
structure Request.IsShowable (request : Request) : Prop where
  url : request.url.IsTextOrNull
  method : request.method.IsTextOrNull
  httpVersion : request.httpVersion.IsTextOrNull
  ip : request.ip.IsTextOrNull
  remoteAddress : request.remoteAddress.IsTextOrNull
  peerAddress : request.peerAddress.IsTextOrNull

namespace Request

/-- The URL of a path is a text, with the query string or without. -/
theorem exists_urlOf (p : String) {query : Value}
    (h : query = .null ∨ ∃ bs, query = .bytes bs) : ∃ s, urlOf (.text p) query = .ok (.text s) := by
  rcases h with rfl | ⟨bs, rfl⟩
  · exact ⟨p, rfl⟩
  · unfold urlOf
    split
    · exact ⟨p, rfl⟩
    · exact ⟨_, rfl⟩

theorem exists_addressText {address : Value} (h : address.isWritable = true) :
    ∃ v, addressText address = .ok v ∧ v.IsTextOrNull := by
  unfold addressText
  split
  · obtain ⟨s, hs⟩ := Value.exists_display h
    exact ⟨.text s, by rw [hs]; rfl, Value.isTextOrNull_text s⟩
  · exact ⟨.null, rfl, Or.inl rfl⟩

end Request

/-- The host of an address is a text, if there is one. -/
theorem exists_clientHost {scope : Table} (h : (scope.get "client").IsAddress) :
    ∃ v, clientHost scope = .ok v ∧ v.IsTextOrNull := by
  unfold clientHost
  rcases h with hclient | ⟨host, port, hclient | hclient⟩ <;> rw [hclient]
  · exact ⟨.null, rfl, Or.inl rfl⟩
  · exact ⟨.text host, rfl, Value.isTextOrNull_text host⟩
  · exact ⟨.text host, rfl, Value.isTextOrNull_text host⟩

namespace Table

theorem mem_of_get_ne_null {t : Table} {name : String} (h : t.get name ≠ .null) :
    (.text name, t.get name) ∈ t := by
  unfold Table.get at h ⊢
  cases hget : t.get? name with
  | none => rw [hget] at h; exact absurd rfl h
  | some v => exact mem_of_get? hget

/-- An entry of writable entries is writable, and so is one that is missing. -/
theorem isWritable_get {t : Table} (h : ∀ e ∈ t, e.2.isWritable = true) (name : String) :
    (t.get name).isWritable = true := by
  by_cases hnull : t.get name = .null
  · rw [hnull]
    rfl
  · exact h _ (mem_of_get_ne_null hnull)

namespace IsWellFormed

variable {scope : Table}

theorem isWritable_stateAddress (h : scope.IsWellFormed) :
    (Request.stateAddress scope).isWritable = true := by
  have hstate := isWritable_get h.values "state"
  unfold Request.stateAddress
  split
  · rename_i state hget
    rw [hget] at hstate
    exact isWritable_get (fun e he => Value.isWritable_of_mem_entries hstate he) "ip"
  · rfl

/-- The facts of a request can be read from a well-formed scope, and all of them can be shown
or left out. -/
theorem exists_request (h : scope.IsWellFormed) {host : Value} (hhost : host.IsTextOrNull) :
    ∃ request, Request.ofScope scope host = .ok request ∧ request.IsShowable := by
  obtain ⟨p, hp⟩ := h.path.orElse_text ""
  obtain ⟨r, hr⟩ := h.rootPath.orElse_text ""
  obtain ⟨url, hurl⟩ := Request.exists_urlOf (fullPath r p) h.query
  obtain ⟨properties, hproperties⟩ :=
    Property.exists_addAll (fun e he => ⟨h.keys e he, h.values e he⟩) []
  obtain ⟨fields, hfields⟩ := h.headers
  obtain ⟨ip, hip, hipText⟩ := Request.exists_addressText h.isWritable_stateAddress
  obtain ⟨peer, hpeer, hpeerText⟩ := exists_clientHost h.client
  let request : Request := {
    method := (scope.get? "method").getD (.text "")
    url := .text url
    path := .text (fullPath r p)
    httpVersion := scope.get "http_version"
    headers := Headers.group [] fields
    properties, ip
    remoteAddress := host
    peerAddress := peer }
  refine ⟨request, ?_, ?showable⟩
  · simp only [Request.ofScope, requestedPath_of_texts hp hr, hurl, Property.ofScope, hproperties,
      hfields.decode_eq, hip, hpeer, bind, Except.bind]
    rfl
  case showable =>
    refine ⟨Value.isTextOrNull_text url, ?method, h.httpVersion, hipText, hhost, hpeerText⟩
    case method =>
      have hmethod := h.method
      show ((scope.get? "method").getD (.text "")).IsTextOrNull
      unfold Table.get at hmethod
      cases hget : scope.get? "method" with
      | none => exact Value.isTextOrNull_text ""
      | some v => rwa [hget] at hmethod

end IsWellFormed

end Table

/-! ## Rendering -/

namespace Resolve

theorem isTextOrNull_ofText? (shown : Option String) : (ofText? shown).IsTextOrNull := by
  cases shown with
  | none => exact Or.inl rfl
  | some s => exact Value.isTextOrNull_text s

theorem isTextOrNull_timeTo {marks : Marks} {tick v : Value} (h : timeTo marks tick = .ok v) :
    v.IsTextOrNull := by
  unfold timeTo at h
  split at h
  · cases h
    exact Or.inl rfl
  · obtain ⟨s, -, h⟩ := exists_of_bind_eq_ok h
    cases h
    exact Value.isTextOrNull_text s

theorem isTextOrNull_responseTime {marks : Marks} {v : Value} (h : responseTime marks = .ok v) :
    v.IsTextOrNull := by
  unfold responseTime at h
  split at h
  · cases h
    exact Or.inl rfl
  · exact isTextOrNull_timeTo h

theorem isTextOrNull_status {response : Response} {v : Value} (h : status response = .ok v) :
    v.IsTextOrNull := by
  unfold status at h
  split at h
  · cases h
    exact Or.inl rfl
  · obtain ⟨s, -, rfl⟩ := exists_of_map_eq_ok h
    exact Value.isTextOrNull_text s

theorem isTextOrNull_referrer {headers : Headers} {v : Value} (h : referrer headers = .ok v) :
    v.IsTextOrNull := by
  obtain ⟨shown, -, h⟩ := exists_of_bind_eq_ok h
  cases shown with
  | none =>
      obtain ⟨other, -, h⟩ := exists_of_bind_eq_ok h
      cases h
      exact isTextOrNull_ofText? other
  | some s =>
      dsimp only at h
      split at h
      · obtain ⟨other, -, h⟩ := exists_of_bind_eq_ok h
        cases h
        exact isTextOrNull_ofText? other
      · cases h
        exact Value.isTextOrNull_text s

theorem isTextOrNull_requestField {request : Request} {key : String} {v : Value}
    (h : requestField request key = .ok v) : v.IsTextOrNull := by
  obtain ⟨shown, -, h⟩ := exists_of_bind_eq_ok h
  cases shown <;> cases h <;> exact Value.isTextOrNull_text _

theorem isTextOrNull_responseField {response : Response} {key : String} {v : Value}
    (h : responseField response key = .ok v) : v.IsTextOrNull := by
  obtain ⟨shown, -, h⟩ := exists_of_bind_eq_ok h
  cases h
  exact Value.isTextOrNull_text _

end Resolve

namespace Request.IsShowable

variable {e : Exchange}

/-- The value of a token is a text or missing. -/
theorem isTextOrNull_value (h : e.request.IsShowable) {kind : TokenKind} {key : Option String}
    {v : Value} (hv : kind.value key e = .ok v) : v.IsTextOrNull := by
  have hnull : Value.null.IsTextOrNull := Or.inl rfl
  cases kind with
  | url => cases hv; exact h.url.orElse hnull
  | method => cases hv; exact h.method.orElse hnull
  | status => exact Resolve.isTextOrNull_status hv
  | responseTime => exact Resolve.isTextOrNull_responseTime hv
  | totalTime => exact Resolve.isTextOrNull_timeTo hv
  | httpVersion => cases hv; exact h.httpVersion
  | referrer => exact Resolve.isTextOrNull_referrer hv
  | remoteAddress => cases hv; exact h.ip.orElse (h.remoteAddress.orElse h.peerAddress)
  | userAgent =>
      obtain ⟨shown, -, rfl⟩ := exists_of_map_eq_ok hv
      exact Resolve.isTextOrNull_ofText? shown
  | requestField =>
      unfold TokenKind.value at hv
      dsimp only at hv
      split at hv
      · cases hv
        exact Value.isTextOrNull_text ""
      · exact Resolve.isTextOrNull_requestField hv
  | responseField =>
      unfold TokenKind.value at hv
      dsimp only at hv
      split at hv
      · cases hv
        exact Value.isTextOrNull_text ""
      · exact Resolve.isTextOrNull_responseField hv

theorem isTextOrNull_resolve (h : e.request.IsShowable) (ref : TokenRef) :
    (ref.resolve e).IsTextOrNull := by
  unfold TokenRef.resolve
  split
  · rename_i v hv
    exact h.isTextOrNull_value hv
  · exact Or.inl rfl

theorem exists_shown (h : e.request.IsShowable) (s : Segment) : ∃ text, s.shown e = .ok text := by
  cases s with
  | literal text => exact ⟨text, rfl⟩
  | token ref =>
      rcases h.isTextOrNull_resolve ref with hnull | ⟨text, htext⟩
      · exact ⟨"", Segment.shown_token_eq_ok.mpr (.inr ⟨hnull, rfl⟩)⟩
      · exact ⟨text, Segment.shown_token_eq_ok.mpr (.inl htext)⟩

/-- Any format can be rendered for a request that can be shown, whatever the response and the
ticks are. -/
theorem exists_render (h : e.request.IsShowable) (t : Template) : ∃ r, t.render e = .ok r := by
  have hall : ∀ segments r, ∃ r', Rendering.addAll e r segments = .ok r' := by
    intro segments
    induction segments with
    | nil => exact fun r => ⟨r, rfl⟩
    | cons s rest ih =>
        intro r
        rw [Rendering.addAll]
        exact exists_bind_eq_ok (h.exists_shown s) fun _ _ => ih _
  exact hall _ _

end Request.IsShowable

end AccessLog
