import AccessLog.Line.Resolve
import AccessLog.Proofs.RemoteAddress

/-!
# Texts without a line feed

A text that holds no line feed is one line (`Text.IsOneLine`). What this library
adds on its own when it puts values into words is one line: digits, quotes, commas
and escapes. So a value is shown as one line as long as nothing in it holds a line feed
(`Value.isOneLine_of_display`), and a duration is one line whatever the clock may answer
(`Duration.isOneLine_ofTicks`).

Nothing takes a line feed out of a text that is shown as it is; only texts inside
other values are escaped.
-/

namespace AccessLog

/-! ## Texts -/

namespace Text

/-- The text holds no line feed. -/
def IsOneLine (s : String) : Prop := '\n' ∉ s.toList

instance (s : String) : Decidable (IsOneLine s) := inferInstanceAs (Decidable ('\n' ∉ s.toList))

theorem IsOneLine.append {s t : String} (hs : IsOneLine s) (ht : IsOneLine t) :
    IsOneLine (s ++ t) := by
  simp only [IsOneLine, String.toList_append, List.mem_append, not_or]
  exact ⟨hs, ht⟩

theorem isOneLine_ofList {cs : List Char} : IsOneLine (String.ofList cs) ↔ '\n' ∉ cs := by
  rw [IsOneLine, String.toList_ofList]

theorem isOneLine_intercalate {separator : String} (hseparator : IsOneLine separator) :
    ∀ {parts : List String}, (∀ part ∈ parts, IsOneLine part) →
      IsOneLine (separator.intercalate parts)
  | [], _ => by simp [IsOneLine]
  | [part], h => by
      rw [String.intercalate_singleton]
      exact h part (List.mem_singleton_self _)
  | part :: next :: rest, h => by
      rw [String.intercalate_cons_cons]
      exact ((h part (List.mem_cons_self ..)).append hseparator).append
        (isOneLine_intercalate hseparator fun p hp => h p (List.mem_cons_of_mem _ hp))

/-- The character for a byte has the number of the byte. -/
theorem toNat_ofNat_byte (b : UInt8) : (Char.ofNat b.toNat).toNat = b.toNat := by
  have hvalid : b.toNat.isValidChar := Or.inl (Nat.lt_trans b.toNat_lt (by decide))
  rw [Char.ofNat, dif_pos hvalid]
  rfl

theorem isOneLine_latin1 {bs : List UInt8} (h : 10 ∉ bs) : IsOneLine (latin1 bs) := by
  rw [latin1, isOneLine_ofList, List.mem_map]
  rintro ⟨b, hb, hchar⟩
  have hcode : b.toNat = 10 := (toNat_ofNat_byte b).symm.trans (congrArg Char.toNat hchar)
  obtain rfl : b = 10 := UInt8.toNat_inj.mp hcode
  exact h hb

theorem hexDigit_ne_newline (n : Nat) : hexDigit n ≠ '\n' := by
  rw [hexDigit, List.getD_eq_getElem?_getD]
  cases hc : "0123456789abcdef".toList[n]? with
  | none => decide
  | some c =>
      rintro rfl
      exact absurd (List.mem_of_getElem? hc) (by decide)

theorem newline_not_mem_hexDigits : ∀ width n : Nat, '\n' ∉ hexDigits width n
  | 0, _ => List.not_mem_nil
  | width + 1, n => by
      rw [hexDigits, List.mem_append, List.mem_singleton, not_or]
      exact ⟨newline_not_mem_hexDigits width _, (hexDigit_ne_newline _).symm⟩

/-- Between quotes a line feed is always escaped. -/
theorem newline_not_mem_escapeChar {marked : Char} (hmarked : marked ≠ '\n')
    (printable : Char → Bool) (c : Char) : '\n' ∉ escapeChar marked printable c := by
  unfold escapeChar escapeCode
  split
  · rename_i h
    simp only [Bool.or_eq_true, decide_eq_true_eq] at h
    rcases h with rfl | rfl
    · simp [hmarked.symm]
    · decide
  · split
    · decide
    · rename_i hc
      have hhex := newline_not_mem_hexDigits
      split
      · decide
      · split
        · decide
        · split
          · simpa using fun h : '\n' = c => hc h.symm
          · split
            · simp [hhex]
            · split <;> simp [hhex]

theorem quoteFor_ne_newline (cs : List Char) : quoteFor cs ≠ '\n' := by
  unfold quoteFor
  split <;> decide

theorem newline_not_mem_flatMap_escapeChar {marked : Char} (hmarked : marked ≠ '\n')
    (printable : Char → Bool) (cs : List Char) :
    '\n' ∉ cs.flatMap (escapeChar marked printable) := by
  rw [List.mem_flatMap]
  rintro ⟨c, -, hc⟩
  exact newline_not_mem_escapeChar hmarked printable c hc

theorem newline_not_mem_quoteChars (printable : Char → Bool) (cs : List Char) :
    '\n' ∉ quoteChars printable cs := by
  have hquote := quoteFor_ne_newline cs
  have hbody := newline_not_mem_flatMap_escapeChar hquote printable cs
  simp [quoteChars, hquote.symm, hbody]

theorem isOneLine_quoted (s : String) : IsOneLine (quoted s) :=
  isOneLine_ofList.mpr (newline_not_mem_quoteChars _ _)

theorem isOneLine_quotedBytes (bs : List UInt8) : IsOneLine (quotedBytes bs) :=
  IsOneLine.append (by decide) (isOneLine_ofList.mpr (newline_not_mem_quoteChars _ _))

theorem isOneLine_quotedBuffer (bs : List UInt8) : IsOneLine (quotedBuffer bs) := by
  have hquote := quoteFor_ne_newline (latin1 bs).toList
  have hbody := newline_not_mem_flatMap_escapeChar (show '\'' ≠ '\n' by decide) isPrintableByte
    (latin1 bs).toList
  refine IsOneLine.append (IsOneLine.append (by decide) (isOneLine_ofList.mpr ?_)) (by decide)
  simp [hquote.symm, hbody]

end Text

open Text (IsOneLine)

/-! ## Numbers -/

namespace Number

theorem newline_not_mem_digits (n : Nat) : '\n' ∉ digits n := fun h =>
  absurd (Nat.isDigit_of_mem_toDigits (by decide) (by decide) h) (by decide)

theorem isOneLine_natText (n : Nat) : IsOneLine (natText n) :=
  Text.isOneLine_ofList.mpr (newline_not_mem_digits n)

theorem isOneLine_intText (n : Int) : IsOneLine (intText n) := by
  unfold intText
  split
  · exact IsOneLine.append (by decide) (isOneLine_natText _)
  · exact isOneLine_natText _

theorem isOneLine_of_intText? {n : Int} {s : String} (h : intText? n = some s) : IsOneLine s := by
  rw [intText?, Option.ite_none_right_eq_some] at h
  obtain ⟨-, hs⟩ := h
  obtain rfl := Option.some.inj hs
  exact isOneLine_intText n

theorem newline_not_mem_padded (width n : Nat) : '\n' ∉ padded width n := by
  simp [padded, List.mem_replicate, newline_not_mem_digits]

theorem isOneLine_thousandthsText (n : Nat) : IsOneLine (thousandthsText n) :=
  ((isOneLine_natText _).append (by decide)).append
    (Text.isOneLine_ofList.mpr (newline_not_mem_padded _ _))

theorem newline_not_mem_spell {ds : List Char} (h : '\n' ∉ ds) (point : Int) :
    '\n' ∉ spell ds point := by
  unfold spell
  split
  · simp only [List.mem_append, not_or]
    refine ⟨⟨?mantissa, ?mark⟩, newline_not_mem_padded _ _⟩
    case mantissa => split <;> simp_all
    case mark => split <;> decide
  · split
    · simp [h, List.mem_replicate]
    · split
      · simp [h, List.mem_replicate]
      · have htake : '\n' ∉ ds.take point.toNat := fun hc => h (List.mem_of_mem_take hc)
        have hdrop : '\n' ∉ ds.drop point.toNat := fun hc => h (List.mem_of_mem_drop hc)
        simp [htake, hdrop]

namespace Binary64

theorem isOneLine_text (x : Binary64) : IsOneLine x.text := by
  have hzeros : ∀ ds : List Char, '\n' ∉ ds → '\n' ∉ withoutTrailingZeros ds := by
    intro ds h hc
    rw [withoutTrailingZeros, List.mem_reverse] at hc
    exact h (List.mem_reverse.mp ((List.dropWhile_sublist _).subset hc))
  unfold text
  split
  · decide
  · split <;> decide
  · have hsign : ∀ negative : Bool, IsOneLine (if negative = true then "-" else "") := by decide
    dsimp only
    split
    · exact (hsign _).append (by decide)
    · exact (hsign _).append (Text.isOneLine_ofList.mpr
        (newline_not_mem_spell (hzeros _ (newline_not_mem_digits _)) _))

theorem isOneLine_toThreePlaces (x : Binary64) : IsOneLine x.toThreePlaces := by
  unfold toThreePlaces
  split
  · decide
  · split <;> decide
  · refine IsOneLine.append ?_ (isOneLine_thousandthsText _)
    split <;> decide

end Binary64

end Number

namespace Duration

theorem isOneLine_ofDifference (x : Number.Binary64) : IsOneLine (ofDifference x) := by
  unfold ofDifference
  split
  · exact Number.isOneLine_thousandthsText 0
  · exact Number.Binary64.isOneLine_toThreePlaces _

theorem isOneLine_between {start stop : Int} {s : String} (h : between start stop = .ok s) :
    IsOneLine s := by
  unfold between at h
  split at h
  · rename_i text hmillis
    cases h
    obtain ⟨m, -, rfl⟩ := Option.map_eq_some_iff.mp hmillis
    exact Number.isOneLine_thousandthsText _
  · cases h

/-- A duration is one line, whatever kinds of ticks a clock gives. -/
theorem isOneLine_ofTicks {start stop : Value} {s : String} (h : ofTicks start stop = .ok s) :
    IsOneLine s := by
  unfold ofTicks at h
  split at h
  · exact isOneLine_between h
  · obtain ⟨a, -, h⟩ := exists_of_bind_eq_ok h
    cases h
    exact isOneLine_ofDifference _
  · obtain ⟨b, -, h⟩ := exists_of_bind_eq_ok h
    cases h
    exact isOneLine_ofDifference _
  · cases h
    exact isOneLine_ofDifference _
  · cases h

end Duration

/-! ## Values -/

namespace Value

mutual

/-- Does no text and no byte string in the value hold a line feed? -/
def isOneLine : Value → Bool
  | .text s => decide (IsOneLine s)
  | .bytes bs => !bs.contains 10
  | .buffer bs => !bs.contains 10
  | .list vs => allOneLine vs
  | .tuple vs => allOneLine vs
  | .table es => entriesOneLine es
  | .object name => decide (IsOneLine name)
  | _ => true

def allOneLine : List Value → Bool
  | [] => true
  | v :: vs => isOneLine v && allOneLine vs

def entriesOneLine : List (Value × Value) → Bool
  | [] => true
  | (k, v) :: es => isOneLine k && (isOneLine v && entriesOneLine es)

end

@[simp] theorem isOneLine_text {s : String} : (text s).isOneLine = true ↔ IsOneLine s := by
  simp [isOneLine]

theorem allOneLine_iff {vs : List Value} :
    allOneLine vs = true ↔ ∀ v ∈ vs, v.isOneLine = true := by
  induction vs with
  | nil => simp [allOneLine]
  | cons v vs ih => simp [allOneLine, ih]

theorem entriesOneLine_iff {es : List (Value × Value)} :
    entriesOneLine es = true ↔ ∀ e ∈ es, e.1.isOneLine = true ∧ e.2.isOneLine = true := by
  induction es with
  | nil => simp [entriesOneLine]
  | cons e es ih =>
      obtain ⟨k, v⟩ := e
      rw [entriesOneLine, Bool.and_eq_true, Bool.and_eq_true, ih, List.forall_mem_cons, and_assoc]

theorem isOneLine_of_intDisplay {n : Int} {s : String} (h : intDisplay n = .ok s) :
    IsOneLine s := by
  unfold intDisplay at h
  cases htext : Number.intText? n with
  | none => rw [htext] at h; cases h
  | some text =>
      rw [htext] at h
      obtain rfl := Except.ok.inj h
      exact Number.isOneLine_of_intText? htext

theorem isOneLine_commaSeparated {parts : List String} (h : ∀ part ∈ parts, IsOneLine part) :
    IsOneLine (commaSeparated parts) :=
  Text.isOneLine_intercalate (by decide) h

mutual

/-- Inside another value, only the names of objects are shown as they are. -/
theorem isOneLine_of_quoted : (v : Value) → v.isOneLine = true →
    ∀ s, quoted v = .ok s → IsOneLine s
  | .null, _ => by rintro s ⟨⟩; decide
  | .bool b, _ => by rintro s ⟨⟩; cases b <;> decide
  | .int n, _ => fun s h => isOneLine_of_intDisplay (by rwa [quoted] at h)
  | .float x, _ => by rintro s ⟨⟩; exact x.isOneLine_text
  | .text t, _ => by rintro s ⟨⟩; exact Text.isOneLine_quoted t
  | .bytes bs, _ => by rintro s ⟨⟩; exact Text.isOneLine_quotedBytes bs
  | .buffer bs, _ => by rintro s ⟨⟩; exact Text.isOneLine_quotedBuffer bs
  | .object name, hv => by
      rintro s ⟨⟩
      have hname : IsOneLine name := by simpa [isOneLine] using hv
      exact (IsOneLine.append (by decide) hname).append (by decide)
  | .list vs, hv => by
      intro s h
      obtain ⟨parts, hparts, h⟩ := exists_of_bind_eq_ok h
      cases h
      have hall := isOneLine_commaSeparated (isOneLine_of_quotedAll vs hv parts hparts)
      exact (IsOneLine.append (by decide) hall).append (by decide)
  | .tuple [], _ => by rintro s ⟨⟩; decide
  | .tuple [v], hv => by
      intro s h
      obtain ⟨part, hpart, h⟩ := exists_of_bind_eq_ok h
      cases h
      have hv : v.isOneLine = true := by simpa [isOneLine, allOneLine] using hv
      exact (IsOneLine.append (by decide) (isOneLine_of_quoted v hv part hpart)).append (by decide)
  | .tuple (v :: w :: vs), hv => by
      intro s h
      obtain ⟨parts, hparts, h⟩ := exists_of_bind_eq_ok h
      cases h
      have hall := isOneLine_commaSeparated (isOneLine_of_quotedAll (v :: w :: vs) hv parts hparts)
      exact (IsOneLine.append (by decide) hall).append (by decide)
  | .table es, hv => by
      intro s h
      obtain ⟨parts, hparts, h⟩ := exists_of_bind_eq_ok h
      cases h
      have hall := isOneLine_commaSeparated (isOneLine_of_quotedEntries es hv parts hparts)
      exact (IsOneLine.append (by decide) hall).append (by decide)

theorem isOneLine_of_quotedAll : (vs : List Value) → allOneLine vs = true →
    ∀ parts, quotedAll vs = .ok parts → ∀ part ∈ parts, IsOneLine part
  | [], _ => by rintro parts ⟨⟩; simp
  | v :: vs, hv => by
      intro parts h
      obtain ⟨head, hhead, h⟩ := exists_of_bind_eq_ok h
      obtain ⟨tail, htail, h⟩ := exists_of_bind_eq_ok h
      cases h
      simp only [allOneLine, Bool.and_eq_true] at hv
      exact List.forall_mem_cons.mpr
        ⟨isOneLine_of_quoted v hv.1 head hhead, isOneLine_of_quotedAll vs hv.2 tail htail⟩

theorem isOneLine_of_quotedEntries : (es : List (Value × Value)) → entriesOneLine es = true →
    ∀ parts, quotedEntries es = .ok parts → ∀ part ∈ parts, IsOneLine part
  | [], _ => by rintro parts ⟨⟩; simp
  | (k, v) :: es, hes => by
      intro parts h
      obtain ⟨key, hkey, h⟩ := exists_of_bind_eq_ok h
      obtain ⟨shown, hshown, h⟩ := exists_of_bind_eq_ok h
      obtain ⟨tail, htail, h⟩ := exists_of_bind_eq_ok h
      cases h
      simp only [entriesOneLine, Bool.and_eq_true] at hes
      have hkey := isOneLine_of_quoted k hes.1 key hkey
      have hshown := isOneLine_of_quoted v hes.2.1 shown hshown
      exact List.forall_mem_cons.mpr ⟨(hkey.append (by decide)).append hshown,
        isOneLine_of_quotedEntries es hes.2.2 tail htail⟩

end

variable {v : Value} {s : String}

theorem isOneLine_of_display (hv : v.isOneLine = true) (h : v.display = .ok s) : IsOneLine s := by
  cases v with
  | text t =>
      cases h
      exact isOneLine_text.mp hv
  | _ => exact isOneLine_of_quoted _ hv _ h

theorem isOneLine_of_decoded (hv : v.isOneLine = true) (h : v.decoded = .ok s) : IsOneLine s := by
  cases v with
  | bytes bs =>
      cases h
      exact Text.isOneLine_latin1 (by simpa [isOneLine] using hv)
  | buffer bs =>
      cases h
      exact Text.isOneLine_latin1 (by simpa [isOneLine] using hv)
  | _ => exact isOneLine_of_display hv h

theorem isOneLine_of_elements (hv : v.isOneLine = true) {vs : List Value}
    (h : v.elements = .ok vs) : ∀ w ∈ vs, w.isOneLine = true := by
  have hbytes : ∀ bs : List UInt8, ∀ w ∈ bs.map ofByte, w.isOneLine = true := by
    intro bs w hw
    obtain ⟨b, -, rfl⟩ := List.mem_map.mp hw
    rfl
  cases v with
  | text t =>
      cases h
      intro w hw
      obtain ⟨c, hc, rfl⟩ := List.mem_map.mp hw
      rw [isOneLine_text, Text.isOneLine_ofList, List.mem_singleton]
      rintro rfl
      exact isOneLine_text.mp hv hc
  | bytes bs => cases h; exact hbytes bs
  | buffer bs => cases h; exact hbytes bs
  | list ws => cases h; exact allOneLine_iff.mp hv
  | tuple ws => cases h; exact allOneLine_iff.mp hv
  | table es =>
      cases h
      intro w hw
      obtain ⟨e, he, rfl⟩ := List.mem_map.mp hw
      exact (entriesOneLine_iff.mp hv e he).1
  | _ => cases h

theorem mem_of_elementAt {vs : List Value} {index w : Value} (h : elementAt vs index = .ok w) :
    w ∈ vs := by
  unfold elementAt at h
  split at h
  · cases h
  · split at h
    · rename_i n hn w' hw
      cases h
      obtain ⟨i, -, hi⟩ := Option.bind_eq_some_iff.mp hw
      exact List.mem_of_getElem? hi
    · cases h

theorem isOneLine_of_item (hv : v.isOneLine = true) {key w : Value} (h : v.item key = .ok w) :
    w.isOneLine = true := by
  have hsequence : ∀ {vs : List Value}, v.elements = .ok vs → elementAt vs key = .ok w →
      w.isOneLine = true :=
    fun hvs hw => isOneLine_of_elements hv hvs w (mem_of_elementAt hw)
  cases v with
  | table es =>
      simp only [item] at h
      split at h
      · cases h
      · split at h
        · rename_i w' hfind
          cases h
          obtain ⟨e, he, rfl⟩ := Option.map_eq_some_iff.mp hfind
          exact (entriesOneLine_iff.mp hv e (List.mem_of_find?_eq_some he)).2
        · cases h
  | text t =>
      obtain ⟨vs, hvs, hw⟩ := exists_of_bind_eq_ok h
      exact hsequence hvs hw
  | bytes bs =>
      obtain ⟨vs, hvs, hw⟩ := exists_of_bind_eq_ok h
      exact hsequence hvs hw
  | buffer bs =>
      obtain ⟨vs, hvs, hw⟩ := exists_of_bind_eq_ok h
      exact hsequence hvs hw
  | list ws =>
      obtain ⟨vs, hvs, hw⟩ := exists_of_bind_eq_ok h
      exact hsequence hvs hw
  | tuple ws =>
      obtain ⟨vs, hvs, hw⟩ := exists_of_bind_eq_ok h
      exact hsequence hvs hw
  | _ => cases h

theorem isOneLine_orElse {other : Value} (hv : v.isOneLine = true)
    (hother : other.isOneLine = true) : (v.orElse other).isOneLine = true := by
  unfold orElse
  split
  · exact hv
  · exact hother

end Value

end AccessLog
