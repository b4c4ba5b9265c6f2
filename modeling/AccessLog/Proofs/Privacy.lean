import AccessLog.Proofs.Conduct

/-!
# What the application keeps to itself

The entries `app`, `extensions` and `state` of a scope belong to the application. Whatever
they hold, and wherever they stand, the same facts of the request are read from the scope,
and the same line with the same map comes of them, whatever its format asks for
(`emission_of_disclosed`). There is one exception, the address that the application puts
into its state for a line to show.

Private entries are told by their names as they are written: an entry `State` is not one.
-/

namespace AccessLog

/-- The names of the entries that belong to the application. -/
def privateNames : List String := ["app", "extensions", "state"]

def isPrivate : Value → Bool
  | .text name => privateNames.contains name
  | _ => false

namespace Table

/-- The entries that do not belong to the application. -/
def disclosed (scope : Table) : Table := scope.filter fun e => !isPrivate e.1

/-- Other names find what they find without the private entries. -/
theorem get?_disclosed (scope : Table) {name : String} (h : privateNames.contains name = false) :
    scope.disclosed.get? name = scope.get? name := by
  unfold disclosed
  induction scope with
  | nil => rfl
  | cons entry rest ih =>
      obtain ⟨key, v⟩ := entry
      rw [List.filter_cons]
      cases key with
      | text k =>
          by_cases hk : k = name
          · subst hk
            simp only [isPrivate, h, Bool.not_false, if_true, get?]
          · dsimp only
            split <;> simp only [get?, hk, if_false, ih]
      | _ => simpa only [isPrivate, Bool.not_false, if_true, get?] using ih

section Disclosed

variable {scope other : Table} (h : scope.disclosed = other.disclosed)
include h

theorem get?_eq_of_disclosed (name : String) (hname : privateNames.contains name = false) :
    scope.get? name = other.get? name := by
  rw [← get?_disclosed scope hname, h, get?_disclosed other hname]

theorem get_eq_of_disclosed (name : String) (hname : privateNames.contains name = false) :
    scope.get name = other.get name := by
  rw [get, get?_eq_of_disclosed h name hname, get]

end Disclosed

end Table

namespace Property

theorem isHidden_of_isPrivate {key : Value} (h : isPrivate key = true) : isHidden key = true := by
  have hnames : ∀ name ∈ privateNames, name ∈ hidden := by decide
  cases key with
  | text name => exact List.contains_iff_mem.mpr (hnames name (List.contains_iff_mem.mp h))
  | _ => cases h

/-- Private entries are never shown as properties. -/
theorem addAll_disclosed (scope : Table) :
    ∀ properties, addAll properties scope.disclosed = addAll properties scope := by
  unfold Table.disclosed
  induction scope with
  | nil => exact fun properties => rfl
  | cons entry rest ih =>
      intro properties
      obtain ⟨key, v⟩ := entry
      rw [List.filter_cons, addAll]
      cases hprivate : isPrivate key with
      | false =>
          simp only [Bool.not_false, if_true, addAll]
          exact bind_congr fun next => ih next
      | true =>
          have hskipped : addEntry properties key v = .ok properties := by
            rw [addEntry, isHidden_of_isPrivate hprivate]
            rfl
          rw [hskipped]
          simp only [Bool.not_true, Bool.false_eq_true, if_false]
          exact ih properties

end Property

section Disclosed

variable {scope other : Table} (h : scope.disclosed = other.disclosed)
include h

theorem requestedPath_of_disclosed : requestedPath scope = requestedPath other := by
  rw [requestedPath, Table.get_eq_of_disclosed h "path" rfl,
    Table.get_eq_of_disclosed h "root_path" rfl, requestedPath]

theorem clientHost_of_disclosed : clientHost scope = clientHost other := by
  rw [clientHost, Table.get_eq_of_disclosed h "client" rfl, clientHost]

theorem Property.ofScope_of_disclosed : Property.ofScope scope = Property.ofScope other := by
  rw [ofScope, ← addAll_disclosed scope, h, addAll_disclosed other, ofScope]

/-- The facts of a request are read from what is disclosed, and from the address in the
state. -/
theorem Request.ofScope_of_disclosed
    (haddress : addressText (stateAddress scope) = addressText (stateAddress other))
    (host : Value) : ofScope scope host = ofScope other host := by
  unfold ofScope
  rw [requestedPath_of_disclosed h, Property.ofScope_of_disclosed h, haddress,
    clientHost_of_disclosed h]
  simp only [Table.get_eq_of_disclosed h "query_string" rfl,
    Table.get_eq_of_disclosed h "headers" rfl, Table.get?_eq_of_disclosed h "method" rfl,
    Table.get_eq_of_disclosed h "http_version" rfl]

theorem Gateway.messageFor_of_disclosed (s : String) :
    Gateway.messageFor scope s = Gateway.messageFor other s := by
  rw [messageFor, Table.get_eq_of_disclosed h "path" rfl, messageFor]

end Disclosed

namespace Gateway

/-- **Private entries do not show.** Let two scopes be the same but for their private
entries, and let the states of both give the same address to show, or none. Then the same
facts are read from both, or the same fault keeps them from being read. With any format, at
any response and any ticks, the same line and the same map are rendered for both, and all
that an emission leaves is the same: what the callback and the sink get to see, and what is
logged. -/
theorem emission_of_disclosed {scope other : Table} (hscopes : scope.disclosed = other.disclosed)
    (haddress : Request.addressText (Request.stateAddress scope) =
      Request.addressText (Request.stateAddress other)) (host : Value) :
    Request.ofScope scope host = Request.ofScope other host ∧
      ∀ (response : Response) (marks : Marks) (reading : Reading),
        (∀ format : String,
          (⟨scope, host, response, marks⟩ : Moment).rendering (Template.parse format) reading =
            (⟨other, host, response, marks⟩ : Moment).rendering (Template.parse format) reading) ∧
        ∀ (o : Observer) (i : Nat),
          o.emissionOf i ⟨scope, host, response, marks⟩ reading =
            o.emissionOf i ⟨other, host, response, marks⟩ reading := by
  have hrequest := Request.ofScope_of_disclosed hscopes haddress host
  have hrendering : ∀ (t : Template) (response : Response) (marks : Marks) (reading : Reading),
      (⟨scope, host, response, marks⟩ : Moment).rendering t reading =
        (⟨other, host, response, marks⟩ : Moment).rendering t reading := by
    intro t response marks reading
    simp only [Moment.rendering, hrequest]
  refine ⟨hrequest, fun response marks reading => ⟨fun format => hrendering _ _ _ _, ?_⟩⟩
  intro o i
  have hremarks : (⟨scope, host, response, marks⟩ : Moment).remarks o.template reading =
      (⟨other, host, response, marks⟩ : Moment).remarks o.template reading := by
    simp only [Moment.remarks, hrequest]
  have hfailed : Observer.renderingFailed scope = Observer.renderingFailed other :=
    messageFor_of_disclosed hscopes _
  simp only [Observer.emissionOf, hremarks, hrendering, hfailed]

/-- A scope with a user in its state, and one with a session in another place; both states
have an address. The entry `State` of either is no private one. -/
def userScope : Table :=
  [(.text "app", .text "secret"), (.text "path", .text "/a"), (.text "State", .int 1),
    (.text "state", .table [(.text "user", .text "ann"), (.text "ip", .text "203.0.113.7")])]

def sessionScope : Table :=
  [(.text "state", .table [(.text "ip", .text "203.0.113.7"), (.text "session", .int 7)]),
    (.text "path", .text "/a"), (.text "extensions", .list [.text "trace"]), (.text "State", .int 1)]

theorem emission_of_disclosed_session :
    userScope.disclosed = sessionScope.disclosed ∧
      Request.addressText (Request.stateAddress userScope) =
        Request.addressText (Request.stateAddress sessionScope) ∧
      Request.ofScope userScope .null = Request.ofScope sessionScope .null ∧
      ∀ (response : Response) (marks : Marks) (reading : Reading),
        (∀ format : String,
          (⟨userScope, .null, response, marks⟩ : Moment).rendering (Template.parse format) reading =
            (⟨sessionScope, .null, response, marks⟩ : Moment).rendering (Template.parse format)
              reading) ∧
        ∀ (o : Observer) (i : Nat),
          o.emissionOf i ⟨userScope, .null, response, marks⟩ reading =
            o.emissionOf i ⟨sessionScope, .null, response, marks⟩ reading := by
  have hscopes : userScope.disclosed = sessionScope.disclosed := by decide
  exact ⟨hscopes, rfl, emission_of_disclosed hscopes rfl .null⟩

end Gateway

end AccessLog
