import AccessLog.Gateway.KeptHost
import AccessLog.Line.Render

/-!
# The remote address of a line

The client's host is kept from the start of an exchange, and an application can
still reach into it through the scope while the exchange goes on. That shows in no
line: a host that can be changed inside is not a text, and becomes nothing that a
line can show (`unshowable_of_withItemAt`), so a line that is rendered with the
kept host is rendered with the host as it was (`render_of_standsFor`).
-/

namespace AccessLog

namespace Value

/-- A value that counts as there and that no line can show. -/
def Unshowable (v : Value) : Prop := v.isTruthy = true ∧ ∀ s, v ≠ .text s

/-- A value that a line can show or leave out. -/
def IsTextOrNull (v : Value) : Prop := v = .null ∨ ∃ s, v = .text s

/-- A value in the place of another one: the same, or one that no line can show in the place
of one that could be changed inside. -/
def StandsFor (v host : Value) : Prop := v = host ∨ v.Unshowable ∧ ¬ host.IsTextOrNull

/-- Nothing else stands for a value that cannot be changed inside. -/
theorem StandsFor.eq {v host : Value} (h : v.StandsFor host) (hhost : host.IsTextOrNull) :
    v = host :=
  h.resolve_right fun hother => hother.2 hhost

end Value

/-- A success of one thing after another is a success of both. -/
theorem exists_of_bind_eq_ok {α β : Type} {x : Except Fault α} {f : α → Except Fault β} {b : β}
    (h : (x >>= f) = .ok b) : ∃ a, x = .ok a ∧ f a = .ok b := by
  cases x with
  | error cause => cases h
  | ok a => exact ⟨a, rfl, h⟩

theorem exists_of_map_eq_ok {α β : Type} {x : Except Fault α} {f : α → β} {b : β}
    (h : x.map f = .ok b) : ∃ a, x = .ok a ∧ f a = b := by
  cases x with
  | error cause => cases h
  | ok a => exact ⟨a, rfl, Except.ok.inj h⟩

theorem Table.set_ne_nil (t : Table) (key v : Value) : t.set key v ≠ [] := by
  cases t with
  | nil => simp [set]
  | cons e rest =>
      unfold set
      split <;> simp

namespace Value

theorem position?_zero (n : Int) : position? 0 n = none := by
  refine if_neg ?_
  rintro ⟨hle, hlt⟩
  exact absurd hlt (Int.not_lt.mpr hle)

theorem ne_nil_of_withElementAt {α : Type} {xs ys : List α} {index : Value} {x : α}
    (h : withElementAt xs index x = .ok ys) : ys ≠ [] := by
  unfold withElementAt at h
  cases hn : index.toInt? with
  | none => rw [hn] at h; cases h
  | some n =>
      cases hi : position? xs.length n with
      | none => simp only [hn, hi] at h; cases h
      | some i =>
          simp only [hn, hi, Except.ok.injEq] at h
          subst h
          intro hnil
          have hlength : xs.length = 0 := by rw [← List.length_set, hnil]; rfl
          rw [hlength, position?_zero] at hi
          cases hi

theorem unshowable_of_withItem {container key v w : Value} (h : container.withItem key v = .ok w) :
    w.Unshowable := by
  cases container with
  | table es =>
      simp only [withItem] at h
      split at h
      · cases h
        exact ⟨by simp [isTruthy, Table.set_ne_nil], by rintro s ⟨⟩⟩
      · cases h
  | list vs =>
      obtain ⟨ws, hws, hw⟩ := exists_of_bind_eq_ok h
      cases hw
      exact ⟨by simp [isTruthy, ne_nil_of_withElementAt hws], by rintro s ⟨⟩⟩
  | buffer bs =>
      simp only [withItem] at h
      split at h
      · cases h
      · obtain ⟨b, -, h⟩ := exists_of_bind_eq_ok h
        obtain ⟨cs, hcs, hw⟩ := exists_of_bind_eq_ok h
        cases hw
        exact ⟨by simp [isTruthy, ne_nil_of_withElementAt hcs], by rintro s ⟨⟩⟩
  | _ => cases h

theorem unshowable_of_withInner {container key inner w : Value}
    (h : container.withInner key inner = .ok w) : w.Unshowable := by
  unfold withInner at h
  split at h
  · obtain ⟨ws, hws, hw⟩ := exists_of_bind_eq_ok h
    cases hw
    exact ⟨by simp [isTruthy, ne_nil_of_withElementAt hws], by rintro s ⟨⟩⟩
  · exact unshowable_of_withItem h

/-- What is changed inside becomes nothing that a line can show. -/
theorem unshowable_of_withItemAt {container v w : Value} {path : List Value}
    (h : container.withItemAt path v = .ok w) : w.Unshowable := by
  match path with
  | [] => cases h
  | [key] => exact unshowable_of_withItem h
  | key :: next :: rest =>
      obtain ⟨inner, -, h⟩ := exists_of_bind_eq_ok h
      obtain ⟨changed, -, h⟩ := exists_of_bind_eq_ok h
      exact unshowable_of_withInner h

/-- Nothing can be put into a text, or where there is nothing. -/
theorem not_isTextOrNull_of_withItemAt {container v w : Value} {path : List Value}
    (h : container.withItemAt path v = .ok w) : ¬ container.IsTextOrNull := by
  rintro (rfl | ⟨s, rfl⟩)
  · match path with
    | [] => cases h
    | [key] => cases h
    | key :: next :: rest => cases h
  · have hnone := Gateway.KeptHost.withItemAt_text s path v
    rw [h] at hnone
    cases hnone

end Value

namespace Gateway.KeptHost

/-- A change of the kept host that leaves the host itself, or nothing that a line
can show. -/
def Faithful (f : KeptHost → KeptHost) : Prop :=
  ∀ h host, h.value.StandsFor host → (f h).value.StandsFor host

theorem faithful_afterPut (scope : Table) (path : List Value) (v : Value) :
    Faithful (·.afterPut scope path v) := by
  intro h host hh
  unfold afterPut
  dsimp only
  split
  · exact hh
  · rename_i rest _ _ _
    dsimp only
    cases hput : h.value.withItemAt rest v with
    | error cause => exact hh
    | ok w =>
        refine Or.inr ⟨Value.unshowable_of_withItemAt hput, ?_⟩
        rcases hh with heq | ⟨-, hhost⟩
        · exact heq ▸ Value.not_isTextOrNull_of_withItemAt hput
        · exact hhost
  · exact hh

theorem faithful_afterRemove (key : Value) : Faithful (·.afterRemove key) :=
  fun _ _ hh => hh

end Gateway.KeptHost

/-! ## What a line makes of it -/

/-- The exchange with another remote address. -/
def Exchange.withRemoteAddress (e : Exchange) (address : Value) : Exchange :=
  { e with request := { e.request with remoteAddress := address } }

/-- The request holds the facts of this scope, and this remote address. -/
structure Request.IsReadFrom (request : Request) (scope : Table) (remoteAddress : Value) :
    Prop where
  path : requestedPath scope = .ok request.path
  url : urlOf request.path (scope.get "query_string") = .ok request.url
  properties : Property.ofScope scope = .ok request.properties
  headers : Headers.decode (scope.get "headers") = .ok request.headers
  ip : addressText (stateAddress scope) = .ok request.ip
  peerAddress : clientHost scope = .ok request.peerAddress
  method : request.method = (scope.get? "method").getD (.text "")
  httpVersion : request.httpVersion = scope.get "http_version"
  remoteAddress : request.remoteAddress = remoteAddress

theorem Request.isReadFrom_of_ofScope {scope : Table} {v : Value} {request : Request}
    (h : ofScope scope v = .ok request) : request.IsReadFrom scope v := by
  obtain ⟨path, hpath, h⟩ := exists_of_bind_eq_ok h
  obtain ⟨url, hurl, h⟩ := exists_of_bind_eq_ok h
  obtain ⟨properties, hproperties, h⟩ := exists_of_bind_eq_ok h
  obtain ⟨headers, hheaders, h⟩ := exists_of_bind_eq_ok h
  obtain ⟨ip, hip, h⟩ := exists_of_bind_eq_ok h
  obtain ⟨peer, hpeer, h⟩ := exists_of_bind_eq_ok h
  cases h
  exact ⟨hpath, hurl, hproperties, hheaders, hip, hpeer, rfl, rfl, rfl⟩

/-- The remote address of a request is the one that is given, whatever else the
scope says. -/
theorem Request.ofScope_remoteAddress {scope : Table} {v : Value} {request : Request}
    (host : Value) (h : Request.ofScope scope v = .ok request) :
    request.remoteAddress = v ∧
      Request.ofScope scope host = .ok { request with remoteAddress := host } := by
  have hread := isReadFrom_of_ofScope h
  refine ⟨hread.remoteAddress, ?_⟩
  simp only [Request.ofScope, hread.path, bind, Except.bind, hread.url, hread.properties,
    hread.headers, hread.ip, hread.peerAddress, hread.method, hread.httpVersion]
  rfl

/-- A segment that can be shown with an address in the place of another one shows
the same with the other one. -/
theorem Segment.shown_withRemoteAddress {e : Exchange} {address : Value}
    (h : e.request.remoteAddress.StandsFor address) {s : Segment} {part : String}
    (hshown : s.shown e = .ok part) : s.shown (e.withRemoteAddress address) = .ok part := by
  rcases h with heq | ⟨⟨htruthy, htext⟩, -⟩
  · subst heq
    exact hshown
  · cases s with
    | literal t => exact hshown
    | token ref =>
        by_cases hkind : ref.kind = .remoteAddress
        · by_cases hip : e.request.ip.isTruthy = true
          · have hsame : (Segment.token ref).value (e.withRemoteAddress address) =
                (Segment.token ref).value e := by
              simp [Segment.value, TokenRef.resolve, hkind, TokenKind.value, Value.orElse, hip,
                Exchange.withRemoteAddress]
            rw [Segment.shown, hsame]
            exact hshown
          · -- the unshowable address is the one that is shown
            have hresolve : ref.resolve e = e.request.remoteAddress := by
              simp [TokenRef.resolve, hkind, TokenKind.value, Value.orElse, hip, htruthy]
            simp only [Segment.shown, Segment.value, hresolve] at hshown
            cases haddress : e.request.remoteAddress with
            | text t => exact absurd haddress (htext t)
            | null => rw [haddress] at htruthy; cases htruthy
            | _ => rw [haddress] at hshown; cases hshown
        · have hsame : ref.kind.value ref.key (e.withRemoteAddress address) =
              ref.kind.value ref.key e := by
            cases hk : ref.kind <;> first | rfl | exact absurd hk hkind
          simp only [Segment.shown, Segment.value, TokenRef.resolve, hsame] at hshown ⊢
          exact hshown

theorem Rendering.addAll_withRemoteAddress {e : Exchange} {address : Value}
    (h : e.request.remoteAddress.StandsFor address) :
    ∀ {segments : List Segment} {r r' : Rendering}, addAll e r segments = .ok r' →
      addAll (e.withRemoteAddress address) r segments = .ok r'
  | [], _, _, hr => hr
  | s :: rest, r, r', hr => by
      rw [addAll] at hr ⊢
      cases hs : s.shown e with
      | error cause => rw [hs] at hr; cases hr
      | ok part =>
          rw [hs] at hr
          rw [Segment.shown_withRemoteAddress h hs]
          exact addAll_withRemoteAddress h hr

/-- A line that is rendered with an address in the place of another one is
rendered with the other one just so. -/
theorem Template.render_withRemoteAddress {t : Template} {e : Exchange} {address : Value}
    (h : e.request.remoteAddress.StandsFor address) {r : Rendering} (hr : t.render e = .ok r) :
    t.render (e.withRemoteAddress address) = .ok r :=
  Rendering.addAll_withRemoteAddress h hr

end AccessLog
