import AccessLog.Proofs.Fields
import AccessLog.Proofs.NormalKey

/-!
# Keys that differ in case only

Two keys that come to the same when they are lowered find the same header fields, since a
key is lowered before it is sought among the headers. The properties of a scope stand under
lowered names too, but there a key is sought as it is given: only a key in lower case finds
one. So tokens whose keys differ in case only show the same, except that one of two request
fields may find a property that the other one misses (`resolve_keys_of_same_lower`,
`misses_property_of_capital`). A key that is read from a format is in lower case.
-/

namespace AccessLog

namespace Text

/-- Only the empty text is lowered to it. -/
theorem lower_eq_empty_iff {s : String} : lower s = "" ↔ s = "" := by
  refine ⟨fun h => ?_, fun h => by rw [h]; rfl⟩
  rw [← String.toList_eq_nil_iff, lower, String.toList_ofList] at h
  by_contra hs
  exact lowerAfter_ne_nil (mt String.toList_eq_nil_iff.mp hs) [] h

theorem eq_empty_iff_of_same_lower {s s' : String} (h : lower s = lower s') :
    s = "" ↔ s' = "" := by
  rw [← lower_eq_empty_iff, h, lower_eq_empty_iff]

end Text

theorem Headers.field?_of_same_lower (headers : Headers) {k k' : String}
    (h : Text.lower k = Text.lower k') : headers.field? k = headers.field? k' := by
  rw [field?, h, field?]

namespace Property

/-- What is shown under a name is shown under one in lower case. -/
theorem lower_of_last? {scope : Table} {name shown : String} (h : last? scope name = some shown) :
    Text.lower name = name := by
  obtain ⟨⟨key, v⟩, -, hentry⟩ := List.mem_filterMap.mp (List.mem_of_getLast? h)
  unfold shownAs? at hentry
  split at hentry
  · rename_i key v heq
    split at hentry
    · cases hentry
    · rename_i hname
      simp only [Bool.or_eq_true, bne_iff_ne, ne_eq, not_or, not_not] at hname
      rw [← hname.2, Text.lower_lower]
  · cases hentry

/-- A key finds what is shown under its name, if it is in lower case, and nothing
otherwise. -/
theorem getD_get?_ofScope {scope : Table} {properties : Named String}
    (h : ofScope scope = .ok properties) (k : String) :
    (properties.get? k).getD "" =
      if Text.lower k = k then (last? scope (Text.lower k)).getD "" else "" := by
  rw [get?_ofScope h]
  split
  · rename_i hk
    rw [hk]
  · rename_i hk
    cases hlast : last? scope k with
    | none => rfl
    | some shown => exact absurd (lower_of_last? hlast) hk

end Property

namespace TokenRef

section Keys

variable {e : Exchange} {k : String}

theorem resolve_requestField_empty (text : String) (e : Exchange) :
    (⟨.requestField, text, some ""⟩ : TokenRef).resolve e = .text "" := rfl

/-- A field whose header cannot be shown is missing. -/
theorem resolve_requestField_of_error (hk : k ≠ "") {cause : Fault}
    (h : e.request.headers.field? k = .error cause) (text : String) :
    (⟨.requestField, text, some k⟩ : TokenRef).resolve e = .null := by
  have hvalue : TokenKind.requestField.value (some k) e = Resolve.requestField e.request k := by
    simp only [TokenKind.value, Option.getD_some]
  rw [resolve, hvalue, Resolve.requestField, h]
  rfl

/-- Without a header of its name, a field shows a property if its key is in lower case. -/
theorem resolve_requestField_of_none {scope : Table} {host : Value}
    (hrequest : Request.ofScope scope host = .ok e.request) (hk : k ≠ "")
    (h : e.request.headers.field? k = .ok none) (text : String) :
    (⟨.requestField, text, some k⟩ : TokenRef).resolve e =
      .text (if Text.lower k = k then (Property.last? scope (Text.lower k)).getD "" else "") := by
  rw [resolve_requestField rfl rfl hk h,
    Property.getD_get?_ofScope (Request.isReadFrom_of_ofScope hrequest).properties]
  rfl

theorem resolve_responseField_of_same_lower {k' : String} (hk : Text.lower k = Text.lower k')
    (text text' : String) (e : Exchange) :
    (⟨.responseField, text, some k⟩ : TokenRef).resolve e =
      (⟨.responseField, text', some k'⟩ : TokenRef).resolve e := by
  by_cases hne : k = ""
  · subst hne
    obtain rfl : k' = "" := (Text.eq_empty_iff_of_same_lower hk).mp rfl
    rfl
  · have hne' : k' ≠ "" := fun h => hne ((Text.eq_empty_iff_of_same_lower hk).mpr h)
    simp only [resolve, TokenKind.value, Option.getD_some, Resolve.responseField,
      e.response.headers.field?_of_same_lower hk]

end Keys

/-- **Keys and case.** Tokens of a response field show the same whenever their keys differ
in case only. Tokens of a request field do so too, unless the request has no header of the
name, the scope shows some text under it, and one of the two keys is in lower case and the
other is not. -/
theorem resolve_keys_of_same_lower {scope : Table} {host : Value} {e : Exchange}
    (hrequest : Request.ofScope scope host = .ok e.request) {k k' : String}
    (hk : Text.lower k = Text.lower k') (text text' : String) :
    (⟨.responseField, text, some k⟩ : TokenRef).resolve e =
        (⟨.responseField, text', some k'⟩ : TokenRef).resolve e ∧
      ((⟨.requestField, text, some k⟩ : TokenRef).resolve e =
          (⟨.requestField, text', some k'⟩ : TokenRef).resolve e ↔
        (e.request.headers.field? k = .ok none →
          (Property.last? scope (Text.lower k)).getD "" ≠ "" →
          (Text.lower k = k ↔ Text.lower k' = k'))) := by
  refine ⟨resolve_responseField_of_same_lower hk text text' e, ?_⟩
  by_cases hne : k = ""
  · subst hne
    obtain rfl : k' = "" := (Text.eq_empty_iff_of_same_lower hk).mp rfl
    simp [resolve_requestField_empty]
  · have hne' : k' ≠ "" := fun h => hne ((Text.eq_empty_iff_of_same_lower hk).mpr h)
    have hfield := e.request.headers.field?_of_same_lower hk
    cases hshown : e.request.headers.field? k with
    | error cause =>
        rw [resolve_requestField_of_error hne hshown,
          resolve_requestField_of_error hne' (hfield ▸ hshown)]
        simp
    | ok shown =>
        cases shown with
        | some s =>
            rw [resolve_requestField rfl rfl hne hshown,
              resolve_requestField rfl rfl hne' (hfield ▸ hshown)]
            simp
        | none =>
            rw [resolve_requestField_of_none hrequest hne hshown,
              resolve_requestField_of_none hrequest hne' (hfield ▸ hshown), ← hk]
            generalize (Property.last? scope (Text.lower k)).getD "" = shown
            by_cases hlower : Text.lower k = k <;> by_cases hlower' : Text.lower k = k' <;>
              grind

/-- A scope with a header and with a property. -/
def taggedScope : Table :=
  [(.text "scheme", .text "https"), (.text "headers", .list [.tuple [.text "X-Tag", .text "a"]])]

/-- An exchange with this scope, and with a response that a bare message starts. -/
def taggedExchange : Exchange where
  request := {
    method := .text ""
    url := .text ""
    path := .text ""
    httpVersion := .null
    headers := [("x-tag", [.text "a"])]
    properties := [("scheme", "https")]
    ip := .null
    remoteAddress := .null
    peerAddress := .null }
  response := .none
  marks := ⟨.int 0, .null⟩
  renderedAt := .int 0

theorem ofScope_taggedScope : Request.ofScope taggedScope .null = .ok taggedExchange.request := by
  decide +kernel

theorem resolve_keys_of_same_lower_tag :
    Request.ofScope taggedScope .null = .ok taggedExchange.request ∧
      Text.lower "X-TAG" = Text.lower "x-tag" ∧
      (⟨.responseField, ":res[X-TAG]", some "X-TAG"⟩ : TokenRef).resolve taggedExchange =
        (⟨.responseField, ":res[x-tag]", some "x-tag"⟩ : TokenRef).resolve taggedExchange ∧
      (⟨.requestField, ":req[X-TAG]", some "X-TAG"⟩ : TokenRef).resolve taggedExchange =
        (⟨.requestField, ":req[x-tag]", some "x-tag"⟩ : TokenRef).resolve taggedExchange := by
  have hkeys : Text.lower "X-TAG" = Text.lower "x-tag" := by decide +kernel
  have hfield : taggedExchange.request.headers.field? "X-TAG" ≠ .ok none := by decide +kernel
  exact ⟨ofScope_taggedScope, hkeys, (resolve_keys_of_same_lower ofScope_taggedScope hkeys _ _).1,
    (resolve_keys_of_same_lower ofScope_taggedScope hkeys _ _).2.mpr fun h => absurd h hfield⟩

/-- A key with a capital misses a property that the key in lower case finds. -/
theorem misses_property_of_capital :
    Request.ofScope taggedScope .null = .ok taggedExchange.request ∧
      Response.ofStart (.table []) = .ok taggedExchange.response ∧
      Text.lower "Scheme" = Text.lower "scheme" ∧
      (⟨.requestField, ":req[Scheme]", some "Scheme"⟩ : TokenRef).resolve taggedExchange =
        .text "" ∧
      (⟨.requestField, ":req[scheme]", some "scheme"⟩ : TokenRef).resolve taggedExchange =
        .text "https" := by
  decide +kernel

end TokenRef

end AccessLog
