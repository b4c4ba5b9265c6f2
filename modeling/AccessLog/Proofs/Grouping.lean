import AccessLog.Proofs.Showable
import Mathlib.Algebra.Ring.Nat
import Mathlib.Data.List.Induction

/-!
# How headers are grouped

Headers are grouped while they are read, which comes to the same as reading all of them first
(`Headers.addAll_eq_map_group`). So what can go wrong is told by the pairs one by one: the first
that is refused decides (`Field.readAll_eq_error_iff`). The groups stand under the distinct
lowered names in the order of their first fields, and each holds the values of its name in the
order of the fields (`Headers.group_nil_eq`); nothing is lost, and the groups of two lists are
the groups of the one joined with those of the other (`Headers.decode_groups`).
-/

namespace AccessLog

/-! ## Values that cannot be written -/

namespace Value

mutual

/-- A value with an integer that cannot be written has no text inside another value. -/
theorem quoted_of_not_isWritable : (v : Value) → v.isWritable = false →
    quoted v = .error .malformed
  | .null => nofun
  | .bool _ => nofun
  | .float _ => nofun
  | .text _ => nofun
  | .bytes _ => nofun
  | .buffer _ => nofun
  | .object _ => nofun
  | .int n => fun h => by
      have hlong : ¬ n.natAbs < Nat.pow 10 Number.digitLimit := fun hlt =>
        absurd (isWritable_int_iff.mpr hlt) (h ▸ Bool.false_ne_true)
      rw [quoted, intDisplay_of_not_lt hlong]
  | .list vs => fun h => by
      rw [quoted, quotedAll_of_not_isWritable vs h]
      rfl
  | .tuple [] => nofun
  | .tuple [v] => fun h => by
      have hv : v.isWritable = false := by simpa [isWritable, allWritable] using h
      rw [quoted, quoted_of_not_isWritable v hv]
      rfl
  | .tuple (v :: w :: vs) => fun h => by
      rw [quoted]
      · rw [quotedAll_of_not_isWritable (v :: w :: vs) h]
        rfl
      · rintro _ ⟨⟩
  | .table es => fun h => by
      rw [quoted, quotedEntries_of_not_isWritable es h]
      rfl

theorem quotedAll_of_not_isWritable : (vs : List Value) → allWritable vs = false →
    quotedAll vs = .error .malformed
  | [] => nofun
  | v :: vs => fun h => by
      rw [quotedAll]
      cases hv : v.isWritable with
      | false =>
          rw [quoted_of_not_isWritable v hv]
          rfl
      | true =>
          obtain ⟨s, hs⟩ := exists_quoted v hv
          have hvs : allWritable vs = false := by simpa [allWritable, hv] using h
          rw [hs, quotedAll_of_not_isWritable vs hvs]
          rfl

theorem quotedEntries_of_not_isWritable : (es : List (Value × Value)) →
    entriesWritable es = false → quotedEntries es = .error .malformed
  | [] => nofun
  | (k, v) :: es => fun h => by
      rw [quotedEntries]
      cases hk : k.isWritable with
      | false =>
          rw [quoted_of_not_isWritable k hk]
          rfl
      | true =>
          obtain ⟨key, hkey⟩ := exists_quoted k hk
          rw [hkey]
          cases hv : v.isWritable with
          | false =>
              rw [quoted_of_not_isWritable v hv]
              rfl
          | true =>
              obtain ⟨s, hs⟩ := exists_quoted v hv
              have hes : entriesWritable es = false := by
                simpa [entriesWritable, hk, hv] using h
              rw [hs, quotedEntries_of_not_isWritable es hes]
              rfl

end

/-- What is neither a text nor bytes is decoded as it is shown inside another value. -/
theorem decoded_cases (v : Value) :
    v.isWritable = true ∧ (∃ s, v.decoded = .ok s) ∨ v.decoded = v.quoted := by
  cases v with
  | text s => exact Or.inl ⟨rfl, s, rfl⟩
  | bytes bs => exact Or.inl ⟨rfl, _, rfl⟩
  | buffer bs => exact Or.inl ⟨rfl, _, rfl⟩
  | _ => exact Or.inr rfl

theorem exists_decoded {v : Value} (h : v.isWritable = true) : ∃ s, v.decoded = .ok s := by
  rcases decoded_cases v with ⟨-, hdecoded⟩ | hquoted
  · exact hdecoded
  · rw [hquoted]
    exact exists_quoted v h

theorem decoded_of_not_isWritable {v : Value} (h : v.isWritable = false) :
    v.decoded = .error .malformed := by
  rcases decoded_cases v with ⟨hwritable, -⟩ | hquoted
  · rw [hwritable] at h
    cases h
  · rw [hquoted]
    exact quoted_of_not_isWritable v h

end Value

/-! ## Reading pairs -/

namespace Value

/-- The value can be iterated over. -/
def IsIterable (v : Value) : Prop := ∃ items, v.elements = .ok items

/-- Two items that can be written. -/
def IsPair (pair : Value) : Prop :=
  ∃ name v, pair.elements = .ok [name, v] ∧ name.isWritable = true ∧ v.isWritable = true

/-- Why a value is not read as a pair. -/
inductive IsRefused (pair : Value) : Fault → Prop
  | notIterable (h : ¬ pair.IsIterable) : IsRefused pair .unsupported
  | wrongCount {items : List Value} (h : pair.elements = .ok items) (hlength : items.length ≠ 2) :
      IsRefused pair .malformed
  | notWritable {name v : Value} (h : pair.elements = .ok [name, v])
      (hwritable : ¬ (name.isWritable = true ∧ v.isWritable = true)) : IsRefused pair .malformed

end Value

namespace Field

/-- Reads a pair as a field. -/
def read (pair : Value) : Except Fault Field := do
  match ← pair.elements with
  | [name, v] => do
    let name ← name.decoded
    return ⟨name, ← v.decoded⟩
  | _ => throw .malformed

def readAll : List Value → Except Fault (List Field)
  | [] => .ok []
  | pair :: rest => do
    let f ← read pair
    return f :: (← readAll rest)

/-- The pair holds the name and the value of the field, as they are decoded. -/
def IsReadFrom (f : Field) (pair : Value) : Prop :=
  ∃ name v, pair.elements = .ok [name, v] ∧ name.decoded = .ok f.name ∧ v.decoded = .ok f.value

theorem read_of_elements {pair name v : Value} (h : pair.elements = .ok [name, v]) :
    read pair = do
      let name ← name.decoded
      return ⟨name, ← v.decoded⟩ := by
  rw [read, h]
  rfl

/-- A value with another number of items than two is no pair. -/
theorem read_of_length_ne {pair : Value} {items : List Value} (h : pair.elements = .ok items)
    (hlength : items.length ≠ 2) : read pair = .error .malformed := by
  rw [read, h]
  match items, hlength with
  | [], _ => rfl
  | [_], _ => rfl
  | _ :: _ :: _ :: _, _ => rfl

theorem read_eq_ok_iff {pair : Value} {f : Field} : read pair = .ok f ↔ f.IsReadFrom pair := by
  constructor
  · intro h
    obtain ⟨items, hitems, -⟩ := exists_of_bind_eq_ok h
    by_cases hlength : items.length = 2
    · obtain ⟨name, v, rfl⟩ := List.length_eq_two.mp hlength
      rw [read_of_elements hitems] at h
      obtain ⟨n, hname, h⟩ := exists_of_bind_eq_ok h
      obtain ⟨s, hv, h⟩ := exists_of_bind_eq_ok h
      cases h
      exact ⟨name, v, hitems, hname, hv⟩
    · rw [read_of_length_ne hitems hlength] at h
      cases h
  · rintro ⟨name, v, hitems, hname, hv⟩
    rw [read_of_elements hitems, hname, hv]
    rfl

theorem exists_read_of_isPair {pair : Value} (h : pair.IsPair) : ∃ f, read pair = .ok f := by
  obtain ⟨name, v, hitems, hname, hv⟩ := h
  obtain ⟨n, hn⟩ := Value.exists_decoded hname
  obtain ⟨s, hs⟩ := Value.exists_decoded hv
  exact ⟨⟨n, s⟩, read_eq_ok_iff.mpr ⟨name, v, hitems, hn, hs⟩⟩

theorem read_of_isRefused {pair : Value} {cause : Fault} (h : pair.IsRefused cause) :
    read pair = .error cause := by
  cases h with
  | notIterable h =>
      cases hitems : pair.elements with
      | ok items => exact absurd ⟨items, hitems⟩ h
      | error c =>
          rw [read, hitems, Value.fault_of_elements hitems]
          rfl
  | wrongCount h hlength => exact read_of_length_ne h hlength
  | @notWritable name v h hwritable =>
      rw [read_of_elements h]
      cases hname : name.isWritable with
      | false =>
          rw [Value.decoded_of_not_isWritable hname]
          rfl
      | true =>
          have hv : v.isWritable = false := Bool.eq_false_iff.mpr fun hv => hwritable ⟨hname, hv⟩
          obtain ⟨n, hn⟩ := Value.exists_decoded hname
          rw [hn, Value.decoded_of_not_isWritable hv]
          rfl

/-- Whatever is no pair is refused for some reason. -/
theorem isPair_or_isRefused (pair : Value) : pair.IsPair ∨ ∃ cause, pair.IsRefused cause := by
  by_cases hiterable : pair.IsIterable
  · obtain ⟨items, hitems⟩ := hiterable
    by_cases hlength : items.length = 2
    · obtain ⟨name, v, rfl⟩ := List.length_eq_two.mp hlength
      by_cases hwritable : name.isWritable = true ∧ v.isWritable = true
      · exact Or.inl ⟨name, v, hitems, hwritable⟩
      · exact Or.inr ⟨_, .notWritable hitems hwritable⟩
    · exact Or.inr ⟨_, .wrongCount hitems hlength⟩
  · exact Or.inr ⟨_, .notIterable hiterable⟩

theorem exists_read_iff {pair : Value} : (∃ f, read pair = .ok f) ↔ pair.IsPair := by
  refine ⟨fun ⟨f, hf⟩ => ?_, exists_read_of_isPair⟩
  rcases isPair_or_isRefused pair with hpair | ⟨cause, hrefused⟩
  · exact hpair
  · rw [read_of_isRefused hrefused] at hf
    cases hf

theorem read_eq_error_iff {pair : Value} {cause : Fault} :
    read pair = .error cause ↔ pair.IsRefused cause := by
  refine ⟨fun h => ?_, read_of_isRefused⟩
  rcases isPair_or_isRefused pair with hpair | ⟨c, hrefused⟩
  · obtain ⟨f, hf⟩ := exists_read_of_isPair hpair
    rw [hf] at h
    cases h
  · rw [read_of_isRefused hrefused] at h
    cases h
    exact hrefused

/-- All pairs can be read when each of them can. -/
theorem exists_readAll_iff {pairs : List Value} :
    (∃ fields, readAll pairs = .ok fields) ↔ ∀ pair ∈ pairs, pair.IsPair := by
  induction pairs with
  | nil => exact iff_of_true ⟨[], rfl⟩ (by simp)
  | cons pair rest ih =>
      rw [List.forall_mem_cons, ← ih, ← exists_read_iff]
      constructor
      · rintro ⟨fields, h⟩
        obtain ⟨f, hf, h⟩ := exists_of_bind_eq_ok h
        obtain ⟨more, hmore, -⟩ := exists_of_bind_eq_ok h
        exact ⟨⟨f, hf⟩, more, hmore⟩
      · rintro ⟨⟨f, hf⟩, more, hmore⟩
        refine ⟨f :: more, ?_⟩
        rw [readAll, hf, hmore]
        rfl

theorem forall₂_of_readAll {pairs : List Value} :
    ∀ {fields}, readAll pairs = .ok fields → List.Forall₂ IsReadFrom fields pairs := by
  induction pairs with
  | nil =>
      intro fields h
      cases h
      exact .nil
  | cons pair rest ih =>
      intro fields h
      obtain ⟨f, hf, h⟩ := exists_of_bind_eq_ok h
      obtain ⟨more, hmore, h⟩ := exists_of_bind_eq_ok h
      cases h
      exact .cons (read_eq_ok_iff.mp hf) (ih hmore)

theorem readAll_of_isRefused {pair : Value} {cause : Fault} (h : pair.IsRefused cause)
    (after : List Value) : ∀ {before : List Value}, (∀ p ∈ before, p.IsPair) →
      readAll (before ++ pair :: after) = .error cause
  | [], _ => by
      rw [List.nil_append, readAll, read_of_isRefused h]
      rfl
  | p :: before, hpairs => by
      obtain ⟨hp, hbefore⟩ := List.forall_mem_cons.mp hpairs
      obtain ⟨f, hf⟩ := exists_read_of_isPair hp
      rw [List.cons_append, readAll, hf, readAll_of_isRefused h after hbefore]
      rfl

/-- The first value that is refused decides why the pairs cannot be read. -/
theorem readAll_eq_error_iff {pairs : List Value} {cause : Fault} :
    readAll pairs = .error cause ↔ ∃ before pair after, pairs = before ++ pair :: after ∧
      (∀ p ∈ before, p.IsPair) ∧ pair.IsRefused cause := by
  constructor
  · intro h
    induction pairs with
    | nil => cases h
    | cons pair rest ih =>
        cases hread : read pair with
        | error c =>
            rw [readAll, hread] at h
            cases h
            exact ⟨[], pair, rest, rfl, by simp, read_eq_error_iff.mp hread⟩
        | ok f =>
            have hpair : pair.IsPair := exists_read_iff.mp ⟨f, hread⟩
            cases hrest : readAll rest with
            | ok fields =>
                rw [readAll, hread, hrest] at h
                cases h
            | error c =>
                rw [readAll, hread, hrest] at h
                cases h
                obtain ⟨before, refused, after, rfl, hbefore, hrefused⟩ := ih hrest
                exact ⟨pair :: before, refused, after, rfl,
                  List.forall_mem_cons.mpr ⟨hpair, hbefore⟩, hrefused⟩
  · rintro ⟨before, pair, after, rfl, hbefore, hrefused⟩
    exact readAll_of_isRefused hrefused after hbefore

theorem readAll_append (pairs more : List Value) :
    readAll (pairs ++ more) = do return (← readAll pairs) ++ (← readAll more) := by
  induction pairs with
  | nil =>
      rw [List.nil_append]
      cases readAll more <;> rfl
  | cons pair rest ih =>
      rw [List.cons_append, readAll, readAll, ih]
      cases read pair with
      | error cause => rfl
      | ok f => cases readAll rest <;> cases readAll more <;> rfl

end Field

/-! ## Names and values of fields -/

/-- Entries under distinct names can be looked up again. -/
theorem Named.eq_map_names {α : Type} {entries : Named α} (h : entries.names.Nodup) (a : α) :
    entries = entries.names.map fun name => (name, (entries.get? name).getD a) := by
  induction entries with
  | nil => rfl
  | cons entry rest ih =>
      obtain ⟨n, x⟩ := entry
      obtain ⟨hnew, hrest⟩ := List.nodup_cons.mp h
      have hlater : ∀ name ∈ names rest, get? ((n, x) :: rest) name = get? rest name := by
        intro name hname
        rw [get?, if_neg]
        rintro rfl
        exact hnew hname
      have hfirst : get? ((n, x) :: rest) n = some x := by rw [get?, if_pos rfl]
      show (n, x) :: rest = (n, (get? ((n, x) :: rest) n).getD a) :: (names rest).map _
      rw [hfirst, List.map_congr_left fun name hname => by rw [hlater name hname], ← ih hrest]
      rfl

/-- A last element counts unless it has come before. -/
theorem eraseDups_concat (names : List String) (name : String) :
    (names ++ [name]).eraseDups =
      if name ∈ names then names.eraseDups else names.eraseDups ++ [name] := by
  rw [List.eraseDups_append, List.removeAll]
  by_cases h : name ∈ names <;> simp [h, List.eraseDups_cons]

theorem nodup_eraseDups (names : List String) : names.eraseDups.Nodup := by
  induction names using List.reverseRecOn with
  | nil => exact List.nodup_nil
  | append_singleton names name ih =>
      rw [eraseDups_concat]
      split
      · exact ih
      · rename_i hnew
        refine List.nodup_append.mpr ⟨ih, List.pairwise_singleton _ _, ?_⟩
        intro old hold last hlast heq
        obtain rfl := List.mem_singleton.mp hlast
        exact hnew (List.mem_eraseDups.mp (heq ▸ hold))

/-- Of a second list, only the names that the first one lacks are new. -/
theorem eraseDups_append_eq (names more : List String) :
    (names ++ more).eraseDups =
      names.eraseDups ++ more.eraseDups.filter fun name => !names.contains name := by
  induction more using List.reverseRecOn with
  | nil => simp
  | append_singleton more name ih =>
      rw [← List.append_assoc, eraseDups_concat, eraseDups_concat, ih]
      by_cases hold : name ∈ names <;> by_cases hmore : name ∈ more <;> simp [hold, hmore]

namespace Field

/-- The names of fields in lower case, each once and where it first comes. -/
def namesOf (fields : List Field) : List String :=
  (fields.map fun f => Text.lower f.name).eraseDups

/-- A name has values just when it is the name of a field. -/
theorem valuesOf_eq_nil_iff {fields : List Field} {name : String} :
    valuesOf fields name = [] ↔ name ∉ namesOf fields := by
  simp [valuesOf, namesOf]

theorem valuesOf_append (fields more : List Field) (name : String) :
    valuesOf (fields ++ more) name = valuesOf fields name ++ valuesOf more name := by
  rw [valuesOf, List.filter_append, List.map_append, valuesOf, valuesOf]

theorem namesOf_append (fields more : List Field) :
    namesOf (fields ++ more) =
      namesOf fields ++ (namesOf more).filter fun name => (valuesOf fields name).isEmpty := by
  rw [namesOf, List.map_append, eraseDups_append_eq, ← namesOf, ← namesOf]
  congr 1
  refine List.filter_congr fun name _ => ?_
  rw [Bool.eq_iff_iff, List.isEmpty_iff, valuesOf_eq_nil_iff, namesOf, List.mem_eraseDups]
  simp

end Field

/-! ## Grouping fields -/

namespace Headers

theorem readPair_eq_map_read (pair : Value) :
    readPair pair = (Field.read pair).map fun f => (Text.lower f.name, f.value) := by
  unfold readPair Field.read
  cases pair.elements with
  | error cause => rfl
  | ok items =>
      match items with
      | [] => rfl
      | [_] => rfl
      | [name, v] =>
          show (do let name ← name.decoded; return (Text.lower name, ← v.decoded)) =
            (do let name ← name.decoded; return ⟨name, ← v.decoded⟩ : Except Fault Field).map _
          cases name.decoded with
          | error cause => rfl
          | ok n => cases v.decoded <;> rfl
      | _ :: _ :: _ :: _ => rfl

/-- Grouping pairs while they are read comes to the same as reading all of them first. -/
theorem addAll_eq_map_group (pairs : List Value) :
    ∀ headers : Headers, addAll headers pairs = (Field.readAll pairs).map headers.group := by
  induction pairs with
  | nil => exact fun headers => rfl
  | cons pair rest ih =>
      intro headers
      rw [addAll, readPair_eq_map_read, Field.readAll]
      cases Field.read pair with
      | error cause => rfl
      | ok f =>
          show addAll (headers.add (Text.lower f.name) (.text f.value)) rest = _
          rw [ih]
          cases Field.readAll rest <;> rfl

theorem group_concat (headers : Headers) (fields : List Field) (f : Field) :
    headers.group (fields ++ [f]) =
      (headers.group fields).add (Text.lower f.name) (.text f.value) := by
  rw [group, List.foldl_append, ← group]
  rfl

theorem names_group (fields : List Field) : (group [] fields).names = Field.namesOf fields := by
  induction fields using List.reverseRecOn with
  | nil => rfl
  | append_singleton fields f ih =>
      rw [group_concat, add, Named.names_update, ih, Field.namesOf, Field.namesOf, List.map_append,
        List.map_singleton, eraseDups_concat]
      simp only [List.mem_eraseDups]

/-- A value makes the groups longer by one in all. -/
theorem sum_length_add (headers : Headers) (name : String) (v : Value) :
    ((headers.add name v).map fun g => g.2.length).sum =
      (headers.map fun g => g.2.length).sum + 1 := by
  unfold add
  induction headers with
  | nil => rfl
  | cons g rest ih =>
      rw [Named.update]
      split
      · simp
        omega
      · simp only [List.map_cons, List.sum_cons, ih]
        omega

theorem sum_length_group (fields : List Field) :
    ((group [] fields).map fun g => g.2.length).sum = fields.length := by
  induction fields using List.reverseRecOn with
  | nil => rfl
  | append_singleton fields f ih =>
      rw [group_concat, sum_length_add, ih, List.length_append, List.length_singleton]

/-- A name finds the values of the fields with this name. -/
theorem get?_group_nil (fields : List Field) (name : String) :
    (group [] fields).get? name =
      if Field.valuesOf fields name = [] then none
      else some ((Field.valuesOf fields name).map .text) := by
  rw [get?_group]
  rfl

theorem getD_get?_group_nil (fields : List Field) (name : String) :
    ((group [] fields).get? name).getD [] = (Field.valuesOf fields name).map .text := by
  rw [get?_group_nil]
  split
  · rename_i hnil
    rw [hnil]
    rfl
  · rfl

/-- The groups of fields: one for each name, with the values of the name. -/
theorem group_nil_eq (fields : List Field) :
    group [] fields = (Field.namesOf fields).map fun name =>
      (name, (Field.valuesOf fields name).map .text) := by
  have hnodup : (group [] fields).names.Nodup := by
    rw [names_group]
    exact nodup_eraseDups _
  rw [Named.eq_map_names hnodup [], names_group]
  simp only [getD_get?_group_nil]

/-- Groups one after the other, name by name. -/
def join (headers more : Headers) : Headers :=
  (headers.map fun g => (g.1, g.2 ++ (more.get? g.1).getD [])) ++
    more.filter fun g => (headers.get? g.1).isNone

theorem isNone_get?_group_nil (fields : List Field) (name : String) :
    ((group [] fields).get? name).isNone = (Field.valuesOf fields name).isEmpty := by
  rw [get?_group_nil, Bool.eq_iff_iff, List.isEmpty_iff]
  split <;> simp_all

theorem group_append (fields more : List Field) :
    group [] (fields ++ more) = (group [] fields).join (group [] more) := by
  have hfirst : ((group [] fields).map fun g => (g.1, g.2 ++ ((group [] more).get? g.1).getD [])) =
      (Field.namesOf fields).map fun name =>
        (name, (Field.valuesOf (fields ++ more) name).map .text) := by
    conv_lhs => rw [group_nil_eq fields, List.map_map]
    refine List.map_congr_left fun name _ => ?_
    simp only [Function.comp_apply, getD_get?_group_nil, Field.valuesOf_append, List.map_append]
  have hsecond : ((group [] more).filter fun g => ((group [] fields).get? g.1).isNone) =
      ((Field.namesOf more).filter fun name => (Field.valuesOf fields name).isEmpty).map
        fun name => (name, (Field.valuesOf (fields ++ more) name).map .text) := by
    conv_lhs => rw [group_nil_eq more, List.filter_map]
    simp only [Function.comp_def, isNone_get?_group_nil]
    refine List.map_congr_left fun name hname => ?_
    have hnil : Field.valuesOf fields name = [] :=
      List.isEmpty_iff.mp (List.mem_filter.mp hname).2
    rw [Field.valuesOf_append, hnil, List.nil_append]
  rw [join, hfirst, hsecond, group_nil_eq, Field.namesOf_append, List.map_append]

/-! ## Decoding -/

theorem map_eq_error_iff {α β : Type} {x : Except Fault α} {f : α → β} {cause : Fault} :
    x.map f = .error cause ↔ x = .error cause := by
  cases x <;> simp [Except.map]

/-- The fields that headers hold: none, or one for each pair. -/
def Hold (raw : Value) (fields : List Field) : Prop :=
  raw.isTruthy = false ∧ fields = [] ∨ raw.isTruthy = true ∧
    ∃ pairs, raw.elements = .ok pairs ∧ List.Forall₂ Field.IsReadFrom fields pairs

theorem decode_of_falsy {raw : Value} (h : raw.isTruthy = false) : decode raw = .ok [] := by
  rw [decode, h]
  rfl

theorem decode_of_elements {raw : Value} (h : raw.isTruthy = true) {pairs : List Value}
    (hpairs : raw.elements = .ok pairs) :
    decode raw = (Field.readAll pairs).map (group []) := by
  rw [decode, h, if_pos rfl, hpairs]
  exact addAll_eq_map_group pairs []

/-- An empty list is decoded like one with pairs. -/
theorem decode_list (pairs : List Value) :
    decode (.list pairs) = (Field.readAll pairs).map (group []) := by
  cases pairs with
  | nil => rfl
  | cons pair rest => exact decode_of_elements rfl rfl

/-- Headers stand for none, or hold elements, or are refused as a whole. -/
theorem decode_cases (raw : Value) :
    raw.isTruthy = false ∧ decode raw = .ok [] ∨
    raw.isTruthy = true ∧ (∃ pairs, raw.elements = .ok pairs ∧
      decode raw = (Field.readAll pairs).map (group [])) ∨
    raw.isTruthy = true ∧ ¬ raw.IsIterable ∧ decode raw = .error .unsupported := by
  cases htruthy : raw.isTruthy with
  | false => exact Or.inl ⟨rfl, decode_of_falsy htruthy⟩
  | true =>
      refine Or.inr ?_
      cases hpairs : raw.elements with
      | ok pairs => exact Or.inl ⟨rfl, pairs, rfl, decode_of_elements htruthy hpairs⟩
      | error cause =>
          have hraw : ¬ raw.IsIterable := fun ⟨pairs, h⟩ => by cases hpairs.symm.trans h
          refine Or.inr ⟨rfl, hraw, ?_⟩
          rw [decode, htruthy, if_pos rfl, hpairs, Value.fault_of_elements hpairs]
          rfl

theorem exists_decode_iff {raw : Value} :
    (∃ headers, decode raw = .ok headers) ↔ raw.isTruthy = false ∨
      ∃ pairs, raw.elements = .ok pairs ∧ ∀ pair ∈ pairs, pair.IsPair := by
  rcases decode_cases raw with ⟨hfalsy, hdecode⟩ | ⟨htruthy, pairs, hpairs, hdecode⟩ |
      ⟨htruthy, hraw, hdecode⟩
  · exact iff_of_true ⟨[], hdecode⟩ (Or.inl hfalsy)
  · rw [hdecode, htruthy, hpairs, or_iff_right (fun h => by cases h)]
    constructor
    · rintro ⟨headers, h⟩
      obtain ⟨fields, hfields, -⟩ := exists_of_map_eq_ok h
      exact ⟨pairs, rfl, Field.exists_readAll_iff.mp ⟨fields, hfields⟩⟩
    · rintro ⟨_, ⟨⟩, hall⟩
      exact exists_map_eq_ok _ (Field.exists_readAll_iff.mpr hall)
  · rw [hdecode, htruthy]
    refine iff_of_false (fun ⟨_, h⟩ => by cases h) ?_
    rintro (h | ⟨pairs, hpairs, -⟩)
    · cases h
    · exact hraw ⟨pairs, hpairs⟩

theorem decode_eq_error_iff {raw : Value} {cause : Fault} :
    decode raw = .error cause ↔ raw.isTruthy = true ∧
      (¬ raw.IsIterable ∧ cause = .unsupported ∨
        ∃ before pair after, raw.elements = .ok (before ++ pair :: after) ∧
          (∀ p ∈ before, p.IsPair) ∧ pair.IsRefused cause) := by
  rcases decode_cases raw with ⟨hfalsy, hdecode⟩ | ⟨htruthy, pairs, hpairs, hdecode⟩ |
      ⟨htruthy, hraw, hdecode⟩
  · rw [hdecode, hfalsy]
    exact iff_of_false (fun h => by cases h) (fun h => by cases h.1)
  · rw [hdecode, and_iff_right htruthy, map_eq_error_iff, Field.readAll_eq_error_iff, hpairs,
      or_iff_right fun h => h.1 ⟨pairs, hpairs⟩]
    simp only [Except.ok.injEq]
  · rw [hdecode, and_iff_right htruthy, or_iff_left, and_iff_right hraw, Except.error.injEq,
      eq_comm]
    rintro ⟨before, pair, after, hpairs, -⟩
    exact hraw ⟨_, hpairs⟩

theorem hold_of_decode {raw : Value} {headers : Headers} (h : decode raw = .ok headers) :
    ∃ fields, Hold raw fields ∧ headers = group [] fields := by
  rcases decode_cases raw with ⟨hfalsy, hdecode⟩ | ⟨htruthy, pairs, hpairs, hdecode⟩ |
      ⟨-, -, hdecode⟩ <;> rw [hdecode] at h
  · cases h
    exact ⟨[], Or.inl ⟨hfalsy, rfl⟩, rfl⟩
  · obtain ⟨fields, hfields, rfl⟩ := exists_of_map_eq_ok h
    exact ⟨fields, Or.inr ⟨htruthy, pairs, hpairs, Field.forall₂_of_readAll hfields⟩, rfl⟩
  · cases h

/-- **How headers are grouped.** Headers can be decoded when they count as none or hold pairs
only, and what can be written in them. Otherwise the kind of the first fault decides. The
decoded headers have one group for each name that comes up, in lower case and where it first
comes; the group holds the values of all fields of this name in their order, and there are as
many values as fields. The groups of two lists are those of the one joined with those of the
other. -/
theorem decode_groups :
    (∀ raw : Value,
      ((∃ headers, decode raw = .ok headers) ↔ raw.isTruthy = false ∨
        ∃ pairs, raw.elements = .ok pairs ∧ ∀ pair ∈ pairs, pair.IsPair) ∧
      (∀ cause, decode raw = .error cause ↔ raw.isTruthy = true ∧
        (¬ raw.IsIterable ∧ cause = .unsupported ∨
          ∃ before pair after, raw.elements = .ok (before ++ pair :: after) ∧
            (∀ p ∈ before, p.IsPair) ∧ pair.IsRefused cause)) ∧
      ∀ headers, decode raw = .ok headers → ∃ fields, Hold raw fields ∧
        headers = (Field.namesOf fields).map (fun name =>
          (name, (Field.valuesOf fields name).map .text)) ∧
        (∀ g ∈ headers, g.2 ≠ []) ∧ (headers.map fun g => g.2.length).sum = fields.length) ∧
    ∀ pairs more : List Value, decode (.list (pairs ++ more)) = do
      return (← decode (.list pairs)).join (← decode (.list more)) := by
  refine ⟨fun raw => ⟨exists_decode_iff, fun cause => decode_eq_error_iff, ?groups⟩, ?joined⟩
  case groups =>
    intro headers h
    obtain ⟨fields, hfields, rfl⟩ := hold_of_decode h
    refine ⟨fields, hfields, group_nil_eq fields, fun g hg => ?_, sum_length_group fields⟩
    rw [group_nil_eq] at hg
    obtain ⟨name, hname, rfl⟩ := List.mem_map.mp hg
    exact fun hnil => Field.valuesOf_eq_nil_iff.mp (List.map_eq_nil_iff.mp hnil) hname
  case joined =>
    intro pairs more
    rw [decode_list, decode_list, decode_list, Field.readAll_append]
    cases Field.readAll pairs with
    | error cause => rfl
    | ok fields =>
        cases Field.readAll more with
        | error cause => rfl
        | ok rest => exact congrArg Except.ok (group_append fields rest)

/-- Two lists of pairs, of other kinds than usual: a text of two characters, two bytes, and
names that are the same only when they are lowered. -/
def oddPairs : List Value := [.text "Ab", .tuple [.bytes [0xC5], .int 1]]

def morePairs : List Value := [.list [.text "å", .bytes [0x31]]]

theorem decode_groups_odd :
    decode (.list (oddPairs ++ morePairs)) =
        (do return (← decode (.list oddPairs)).join (← decode (.list morePairs))) ∧
      ∃ headers fields, decode (.list (oddPairs ++ morePairs)) = .ok headers ∧
        Hold (.list (oddPairs ++ morePairs)) fields ∧
        headers = (Field.namesOf fields).map (fun name =>
          (name, (Field.valuesOf fields name).map .text)) := by
  obtain ⟨hraw, hjoined⟩ := decode_groups
  obtain ⟨hdecode, -, hgroups⟩ := hraw (.list (oddPairs ++ morePairs))
  refine ⟨hjoined oddPairs morePairs, ?_⟩
  have hpairs : ∀ pair ∈ oddPairs ++ morePairs, pair.IsPair := by
    refine List.forall_mem_cons.mpr ⟨⟨_, _, rfl, rfl, rfl⟩, List.forall_mem_cons.mpr ⟨?_, ?_⟩⟩
    · exact ⟨_, _, rfl, rfl, Value.isWritable_int_iff.mpr (by decide +kernel)⟩
    · exact List.forall_mem_singleton.mpr ⟨_, _, rfl, rfl, rfl⟩
  obtain ⟨headers, hheaders⟩ := hdecode.mpr (Or.inr ⟨_, rfl, hpairs⟩)
  obtain ⟨fields, hfields, heq, -⟩ := hgroups headers hheaders
  exact ⟨headers, fields, hheaders, hfields, heq⟩

/-- A header whose value is an integer of 4301 digits. -/
def overlongHeader : Value := .tuple [.text "content-length", .int (Nat.pow 10 4300 : Nat)]

/-- Headers can hold nothing but a pair of two items and still not be decoded. -/
theorem refuses_overlong_header :
    (Value.list [overlongHeader]).elements = .ok [overlongHeader] ∧
      (∃ name v, overlongHeader.elements = .ok [name, v]) ∧
      decode (.list [overlongHeader]) = .error .malformed := by
  refine ⟨rfl, ⟨_, _, rfl⟩, decode_eq_error_iff.mpr ⟨rfl, Or.inr ?_⟩⟩
  refine ⟨[], overlongHeader, [], rfl, by simp, .notWritable rfl fun h => ?_⟩
  exact absurd (Value.isWritable_int_iff.mp h.2) (by decide +kernel)

end Headers

end AccessLog
