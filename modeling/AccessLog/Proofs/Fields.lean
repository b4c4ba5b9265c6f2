import AccessLog.Proofs.Lowering
import AccessLog.Proofs.Pieces
import AccessLog.Proofs.RemoteAddress
import Mathlib.Data.List.Forall2

/-!
# What a field token shows

A field token shows the header fields of its name, in the order in which they were listed
and separated by commas. A token of a response field shows nothing else; one of a request
field falls back on the properties of the scope (`TokenRef.resolve_field`). Case means
nothing on either side: a name is lowered once before it is grouped, and a key once when
it is read and once more when it is sought, which comes to the same (`Text.lower_lower`).
-/

namespace AccessLog

/-! ## Header fields -/

namespace Value

/-- A value that writes a text into a header, as characters or as bytes. -/
def Spells (v : Value) (s : String) : Prop :=
  v = .text s ∨ ∃ bs, (v = .bytes bs ∨ v = .buffer bs) ∧ s = Text.latin1 bs

theorem Spells.decoded_eq {v : Value} {s : String} (h : v.Spells s) : v.decoded = .ok s := by
  rcases h with rfl | ⟨bs, rfl | rfl, rfl⟩ <;> rfl

/-- A collection that is not truthy has no elements. -/
theorem eq_nil_of_elements {v : Value} {vs : List Value} (h : v.elements = .ok vs)
    (hfalsy : v.isTruthy = false) : vs = [] := by
  cases v <;> simp_all [elements, isTruthy]

end Value

/-- A header field; the name stands as it was sent. -/
structure Field where
  name : String
  value : String
  deriving Repr, DecidableEq

namespace Field

/-- The pair holds the name and the value of the field. -/
def IsHeldBy (f : Field) (pair : Value) : Prop :=
  ∃ name v, pair.elements = .ok [name, v] ∧ name.Spells f.name ∧ v.Spells f.value

theorem IsHeldBy.readPair_eq {f : Field} {pair : Value} (h : f.IsHeldBy pair) :
    Headers.readPair pair = .ok (Text.lower f.name, f.value) := by
  obtain ⟨name, v, helements, hname, hv⟩ := h
  rw [Headers.readPair, helements]
  show (do let name ← name.decoded; return (Text.lower name, ← v.decoded)) = _
  rw [hname.decoded_eq, hv.decoded_eq]
  rfl

/-- The values of the fields with a name that is given in lower case. -/
def valuesOf (fields : List Field) (name : String) : List String :=
  (fields.filter fun f => Text.lower f.name = name).map Field.value

/-- The values of the fields with a name, separated by commas, if there are any. -/
def joined? (fields : List Field) (name : String) : Option String :=
  if valuesOf fields name = [] then none else some (",".intercalate (valuesOf fields name))

theorem valuesOf_cons (f : Field) (fields : List Field) (name : String) :
    valuesOf (f :: fields) name =
      if name = Text.lower f.name then f.value :: valuesOf fields name
      else valuesOf fields name := by
  rw [valuesOf, List.filter_cons]
  simp only [decide_eq_true_eq, @eq_comm _ (Text.lower f.name)]
  split <;> rfl

end Field

namespace Headers

/-- Groups fields by their names in lower case. -/
def group (headers : Headers) (fields : List Field) : Headers :=
  fields.foldl (fun headers f => headers.add (Text.lower f.name) (.text f.value)) headers

/-- A group gets the values of its name, in order, after those that it has. -/
theorem get?_group (fields : List Field) (name : String) : ∀ headers : Headers,
    (headers.group fields).get? name =
      if Field.valuesOf fields name = [] then headers.get? name
      else some ((headers.get? name).getD [] ++ (Field.valuesOf fields name).map .text) := by
  induction fields with
  | nil => exact fun headers => rfl
  | cons f rest ih =>
      intro headers
      rw [group, List.foldl_cons, ← group, ih, get?_add, Field.valuesOf_cons]
      by_cases hname : name = Text.lower f.name
      · subst hname
        -- The group is complete with this value, or the rest adds more to it.
        by_cases hrest : Field.valuesOf rest (Text.lower f.name) = [] <;> simp [hrest]
      · simp [hname]

/-- What is listed as headers: nothing, or a pair for each of the fields. -/
def Lists (raw : Value) (fields : List Field) : Prop :=
  raw = .null ∧ fields = [] ∨
    ∃ pairs, raw.elements = .ok pairs ∧ List.Forall₂ Field.IsHeldBy fields pairs

theorem addAll_of_forall₂ {fields : List Field} {pairs : List Value}
    (h : List.Forall₂ Field.IsHeldBy fields pairs) :
    ∀ headers, addAll headers pairs = .ok (headers.group fields) := by
  induction h with
  | nil => exact fun headers => rfl
  | cons hpair _ ih =>
      intro headers
      rw [addAll, hpair.readPair_eq]
      exact ih _

/-- Well-formed headers can be decoded, into the groups of their fields. -/
theorem Lists.decode_eq {raw : Value} {fields : List Field} (h : Lists raw fields) :
    decode raw = .ok (group [] fields) := by
  rcases h with ⟨rfl, rfl⟩ | ⟨pairs, helements, hpairs⟩
  · rfl
  · rw [decode]
    split
    · rw [helements]
      exact addAll_of_forall₂ hpairs []
    · rename_i hfalsy
      obtain rfl := Value.eq_nil_of_elements helements (Bool.eq_false_iff.mpr hfalsy)
      cases hpairs
      rfl

theorem allTexts_map_text (texts : List String) : allTexts (texts.map .text) = .ok texts := by
  induction texts with
  | nil => rfl
  | cons text rest ih =>
      rw [List.map_cons, allTexts, ih]
      rfl

/-- A name that is in lower case finds the fields of that name. -/
theorem field?_group (fields : List Field) {name : String} (h : Text.lower name = name) :
    (group [] fields).field? name = .ok (Field.joined? fields name) := by
  rw [field?, h, get?_group, Field.joined?]
  cases hvalues : Field.valuesOf fields name with
  | nil => rfl
  | cons value rest =>
      rw [if_neg (List.cons_ne_nil _ _), if_neg (List.cons_ne_nil _ _)]
      show (do return some (",".intercalate (← allTexts ((value :: rest).map .text)))) = _
      rw [allTexts_map_text]
      rfl

end Headers

/-! ## Properties of a scope -/

namespace Property

/-- What an entry of a scope shows under a name that is given in lower case. -/
def shownAs? (name : String) : Value × Value → Option String
  | (.text key, v) =>
    if hidden.contains key || Text.lower key != name then none else (render v).toOption.join
  | _ => none

/-- What the last entry shows that shows something under a name. -/
def last? (scope : Table) (name : String) : Option String :=
  (scope.filterMap (shownAs? name)).getLast?

/-- An entry that shows something under a name takes the place of what was there. -/
theorem get?_addEntry {properties properties' : Named String} {key v : Value}
    (h : addEntry properties key v = .ok properties') (name : String) :
    properties'.get? name = (shownAs? name (key, v)).or (properties.get? name) := by
  unfold addEntry at h
  cases hhidden : isHidden key with
  | true =>
      rw [hhidden, if_pos rfl] at h
      cases h
      cases key with
      | text k =>
          have hk : hidden.contains k = true := hhidden
          rw [shownAs?, hk]
          rfl
      | _ => rfl
  | false =>
      rw [hhidden, if_neg Bool.false_ne_true] at h
      obtain ⟨rendered, hrendered, h⟩ := exists_of_bind_eq_ok h
      cases key with
      | text k =>
          have hk : hidden.contains k = false := hhidden
          simp only [shownAs?, hk, hrendered, Bool.false_or, bne_iff_ne, ne_eq, ite_not]
          cases rendered with
          | none =>
              cases h
              simp [Except.toOption]
          | some shown =>
              cases h
              rw [Named.get?_set]
              simp only [@eq_comm _ name]
              split <;> rfl
      | bytes bs => cases rendered <;> cases h <;> rfl
      | _ =>
          cases rendered with
          | none => cases h; rfl
          | some shown => cases h

theorem get?_addAll {name : String} {scope : Table} :
    ∀ {properties properties' : Named String}, addAll properties scope = .ok properties' →
      properties'.get? name = (last? scope name).or (properties.get? name) := by
  induction scope with
  | nil =>
      intro properties properties' h
      cases h
      rfl
  | cons entry rest ih =>
      intro properties properties' h
      obtain ⟨next, hnext, h⟩ := exists_of_bind_eq_ok h
      rw [ih h, get?_addEntry hnext, last?, last?, List.filterMap_cons]
      cases hentry : shownAs? name entry with
      | none => rfl
      | some shown =>
          rw [List.getLast?_cons]
          cases (rest.filterMap (shownAs? name)).getLast? <;> rfl

/-- A name finds what the last entry shows that shows something under it. -/
theorem get?_ofScope {scope : Table} {properties : Named String}
    (h : ofScope scope = .ok properties) (name : String) :
    properties.get? name = last? scope name := by
  rw [get?_addAll h, Named.get?_nil, Option.or_none]

end Property

/-! ## Field tokens -/

namespace TokenRef

/-- A name of a kind that is followed by a bracket is the name and the bracket. -/
theorem toList_bracket (kind : TokenKind) (s : String) :
    (":" ++ kind.name ++ "[" ++ s ++ "]").toList =
      ':' :: (kind.name.toList ++ bracketOf (some s.toList)) := by
  simp [bracketOf]

/-- The key of a token is what stands between its brackets, in its normal form. -/
theorem key_of_parse (kind : TokenKind) (hkind : kind.takesKey = true) {s : String}
    {ref : TokenRef} (h : Segment.parse (":" ++ kind.name ++ "[" ++ s ++ "]") = .token ref) :
    ref.kind = kind ∧ ref.key = some (normalKey s.toList) ∧ normalKey s.toList ≠ "" := by
  have hparse : parse? (":" ++ kind.name ++ "[" ++ s ++ "]") = some ref := by
    rw [Segment.parse] at h
    split at h
    · rename_i hparse
      rw [hparse, Segment.token.inj h]
    · cases h
  obtain ⟨kind', inner, hparts, hkey, rfl⟩ := parse?_eq_some_iff.mp hparse
  obtain ⟨hpiece, -, hname, -⟩ := parts?_eq_some_iff.mp hparts
  rw [toList_bracket] at hpiece
  obtain ⟨hkinds, rfl⟩ := eq_of_append_bracketOf TokenKind.isNameChar_of_mem_name hname
    (List.tail_eq_of_cons_eq hpiece)
  obtain rfl := TokenKind.name_injective (String.toList_inj.mp hkinds)
  exact ⟨rfl, if_pos hkind, hkey hkind⟩

/-- What a token of a request field resolves to, by the groups of the headers. -/
theorem resolve_requestField {ref : TokenRef} {key : String} (hkind : ref.kind = .requestField)
    (hkey : ref.key = some key) (hne : key ≠ "") {e : Exchange} {shown : Option String}
    (hshown : e.request.headers.field? key = .ok shown) :
    ref.resolve e = .text (shown.getD ((e.request.properties.get? key).getD "")) := by
  have hvalue : ref.kind.value ref.key e = Resolve.requestField e.request key := by
    rw [hkind, hkey]
    simp only [TokenKind.value, Option.getD_some]
  rw [resolve, hvalue, Resolve.requestField, hshown]
  cases shown <;> rfl

/-- What a token of a response field resolves to, by the groups of the headers. -/
theorem resolve_responseField {ref : TokenRef} {key : String}
    (hkind : ref.kind = .responseField) (hkey : ref.key = some key) (hne : key ≠ "")
    {e : Exchange} {shown : Option String}
    (hshown : e.response.headers.field? key = .ok shown) :
    ref.resolve e = .text (shown.getD "") := by
  have hvalue : ref.kind.value ref.key e = Resolve.responseField e.response key := by
    rw [hkind, hkey]
    simp only [TokenKind.value, Option.getD_some]
  rw [resolve, hvalue, Resolve.responseField, hshown]
  rfl

/-- **What a field token shows.** Whatever fields the headers list, by texts or by bytes:
the token that `:res[s]` is read as shows the values of the fields whose name comes to the
same as `s` when both are lowered, in the order of the list and separated by commas, or
nothing when there is no such field. The token that `:req[s]` is read as shows the fields
of the request in the same way, and without one what the last entry of the scope shows
that shows something under this name. -/
theorem resolve_field {raw : Value} {fields : List Field} (hraw : Headers.Lists raw fields)
    (s : String) (ref : TokenRef) :
    (Segment.parse (":res[" ++ s ++ "]") = .token ref →
      ∀ message : Table, message.get "headers" = raw →
        ∃ response, Response.ofStart (.table message) = .ok response ∧
          ∀ e : Exchange, e.response = response →
            ref.resolve e = .text ((Field.joined? fields (normalKey s.toList)).getD "")) ∧
    (Segment.parse (":req[" ++ s ++ "]") = .token ref →
      ∀ (scope : Table) (host : Value) (e : Exchange), scope.get "headers" = raw →
        Request.ofScope scope host = .ok e.request →
          ref.resolve e = .text ((Field.joined? fields (normalKey s.toList)).getD
            ((Property.last? scope (normalKey s.toList)).getD ""))) := by
  -- The key is in lower case, so it is not changed when it is lowered again to be sought.
  have hkey : Text.lower (normalKey s.toList) = normalKey s.toList := Text.lower_lower _
  constructor
  · intro hparse message hmessage
    obtain ⟨hkind, href, hne⟩ := key_of_parse .responseField rfl hparse
    refine ⟨⟨message.get "status", Headers.group [] fields⟩, ?_, fun e he => ?_⟩
    · rw [Response.ofStart, hmessage, hraw.decode_eq]
      rfl
    · refine resolve_responseField hkind href hne ?_
      rw [he]
      exact Headers.field?_group fields hkey
  · intro hparse scope host e hscope hrequest
    obtain ⟨hkind, href, hne⟩ := key_of_parse .requestField rfl hparse
    have hread := Request.isReadFrom_of_ofScope hrequest
    have hheaders : e.request.headers = Headers.group [] fields := by
      have := hread.headers
      rw [hscope, hraw.decode_eq] at this
      exact (Except.ok.inj this).symm
    rw [← Property.get?_ofScope hread.properties]
    refine resolve_requestField hkind href hne ?_
    rw [hheaders]
    exact Headers.field?_group fields hkey

/-- Three fields, two of them of one name, in other spellings and of other types. -/
def mixedFields : List Field := [⟨"X-Tag", "a"⟩, ⟨"Via", ""⟩, ⟨"x-tAG", "b"⟩]

def mixedHeaders : Value :=
  .list [.tuple [.bytes "X-Tag".toUTF8.toList, .text "a"], .list [.text "Via", .bytes []],
    .tuple [.text "x-tAG", .bytes "b".toUTF8.toList]]

/-- A scope with these headers, and with two entries of one name but for its case. -/
def mixedScope : Table :=
  [(.text "headers", mixedHeaders), (.text "via", .text "c"), (.text "İD", .int 1),
    (.text "i̇d", .list [.int 2, .text "d"]), (.text "İd", .null)]

theorem resolve_field_mixed :
    Headers.Lists mixedHeaders mixedFields ∧
    (∃ response, Response.ofStart (.table [(.text "headers", mixedHeaders)]) = .ok response ∧
      ∀ e : Exchange, e.response = response →
        (⟨.responseField, ":res[ X-TAG]", some "x-tag"⟩ : TokenRef).resolve e = .text "a,b") ∧
    ∃ request, Request.ofScope mixedScope .null = .ok request ∧
      ∀ e : Exchange, e.request = request →
        (⟨.requestField, ":req[VIA]", some "via"⟩ : TokenRef).resolve e = .text "" ∧
          (⟨.requestField, ":req[İd]", some "i̇d"⟩ : TokenRef).resolve e = .text "2,d" := by
  have hlists : Headers.Lists mixedHeaders mixedFields := by
    refine Or.inr ⟨_, rfl, ?_⟩
    refine .cons ⟨_, _, rfl, Or.inr ⟨_, Or.inl rfl, ?_⟩, Or.inl rfl⟩
      (.cons ⟨_, _, rfl, Or.inl rfl, Or.inr ⟨_, Or.inl rfl, ?_⟩⟩
        (.cons ⟨_, _, rfl, Or.inl rfl, Or.inr ⟨_, Or.inl rfl, ?_⟩⟩ .nil)) <;> decide +kernel
  refine ⟨hlists, ?_, ?_⟩
  · obtain ⟨response, hresponse, hresolve⟩ :=
      (resolve_field hlists " X-TAG" ⟨.responseField, ":res[ X-TAG]", some "x-tag"⟩).1
        (by decide +kernel) [(.text "headers", mixedHeaders)] rfl
    refine ⟨response, hresponse, fun e he => (hresolve e he).trans (congrArg _ ?_)⟩
    decide +kernel
  · have hread : (Request.ofScope mixedScope .null).toOption.isSome = true := by decide +kernel
    cases hrequest : Request.ofScope mixedScope .null with
    | error cause => rw [hrequest] at hread; cases hread
    | ok request =>
        refine ⟨request, rfl, fun e he => ⟨?_, ?_⟩⟩ <;> subst he
        · refine ((resolve_field hlists "VIA" _).2 (by decide +kernel) _ _ e rfl hrequest).trans
            (congrArg _ ?_)
          decide +kernel
        · refine ((resolve_field hlists "İd" _).2 (by decide +kernel) _ _ e rfl hrequest).trans
            (congrArg _ ?_)
          decide +kernel

end TokenRef

end AccessLog
