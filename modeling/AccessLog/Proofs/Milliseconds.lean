import AccessLog.Proofs.Rendering
import AccessLog.Proofs.RoundingOrder

/-!
# Durations in a line

The time between two integer ticks is shown in milliseconds with exactly three places
(`isThousandths_thousandthsText`), and a text of this form denotes one number only
(`IsThousandths.unique`). A longer duration is not shown as a smaller number
(`Duration.between_mono`), so of the two durations of an exchange the one up to the start of
the response is at most the one up to the rendering (`Resolve.responseTime_le_timeTo`).
-/

namespace AccessLog

namespace Number

/-! ## Three places -/

/-- The text is a number with exactly three places, and it is this many thousandths. -/
def IsThousandths (text : String) (n : Nat) : Prop :=
  ∃ whole places : List Char, text.toList = whole ++ '.' :: places ∧ whole ≠ [] ∧
    places.length = 3 ∧ (∀ c ∈ whole ++ places, c.isDigit = true) ∧
    digitsValue (whole ++ places) = n

theorem IsThousandths.unique {text : String} {n m : Nat} (hn : IsThousandths text n)
    (hm : IsThousandths text m) : n = m := by
  obtain ⟨whole, places, htext, -, hlength, -, rfl⟩ := hn
  obtain ⟨whole', places', htext', -, hlength', -, rfl⟩ := hm
  have hsame := htext.symm.trans htext'
  obtain ⟨rfl, htail⟩ := List.append_inj' hsame (by simp [hlength, hlength'])
  rw [(List.cons.inj htail).2]

theorem isDigit_of_mem_digits {n : Nat} {c : Char} (h : c ∈ digits n) : c.isDigit = true :=
  Nat.isDigit_of_mem_toDigits (by decide) (by decide) h

theorem length_digits_le {n width : Nat} (hwidth : 0 < width) (h : n < 10 ^ width) :
    (digits n).length ≤ width :=
  (Nat.length_toDigits_le_iff (by decide) hwidth).mpr h

theorem length_padded {n width : Nat} (hwidth : 0 < width) (h : n < 10 ^ width) :
    (padded width n).length = width := by
  have hle := length_digits_le hwidth h
  rw [padded, List.length_append, List.length_replicate]
  omega

theorem isDigit_of_mem_padded {n width : Nat} {c : Char} (h : c ∈ padded width n) :
    c.isDigit = true := by
  rcases List.mem_append.mp h with hzero | hdigit
  · rw [(List.mem_replicate.mp hzero).2]
    rfl
  · exact isDigit_of_mem_digits hdigit

theorem digitsValue_digits (n : Nat) : digitsValue (digits n) = n :=
  Nat.ofDigitChars_ten_toDigits

theorem digitsValue_append (ds es : List Char) :
    digitsValue (ds ++ es) = 10 ^ es.length * digitsValue ds + digitsValue es := by
  show Nat.ofDigitChars 10 (ds ++ es) 0 = _
  rw [Nat.ofDigitChars_append, Nat.ofDigitChars_eq_ofDigitChars_zero]
  rfl

/-- Leading zeros do not count. -/
theorem digitsValue_padded (width n : Nat) : digitsValue (padded width n) = n := by
  have hzeros : digitsValue (List.replicate (width - (digits n).length) '0') = 0 :=
    (Nat.ofDigitChars_replicate_zero (b := 10)).trans (Nat.mul_zero _)
  rw [padded, digitsValue_append, hzeros, digitsValue_digits, Nat.mul_zero, Nat.zero_add]

theorem isThousandths_thousandthsText (n : Nat) : IsThousandths (thousandthsText n) n := by
  have hplaces : n % 1000 < 10 ^ 3 := Nat.mod_lt n (by decide)
  have hlength := length_padded (by decide) hplaces
  refine ⟨digits (n / 1000), padded 3 (n % 1000), ?_, Nat.toDigits_ne_nil, hlength, ?_, ?_⟩
  · simp [thousandthsText, natText]
  · intro c hc
    exact (List.mem_append.mp hc).elim isDigit_of_mem_digits isDigit_of_mem_padded
  · rw [digitsValue_append, hlength, digitsValue_digits, digitsValue_padded]
    exact Nat.div_add_mod n 1000

end Number

open Number

namespace Duration

theorem exists_of_between_eq_ok {start stop : Int} {text : String}
    (h : between start stop = .ok text) :
    ∃ m, magnitudeOf? (elapsed start stop) perMillisecond = some m ∧
      text = thousandthsText m.thousandths := by
  unfold between millis? at h
  cases hm : magnitudeOf? (elapsed start stop) perMillisecond with
  | none => simp [hm] at h
  | some m =>
      rw [hm] at h
      exact ⟨m, rfl, (Except.ok.inj h).symm⟩

/-- Of two durations the longer one is not shown as the smaller number. -/
theorem between_mono {start stop start' stop' : Int} {text text' : String}
    (h : between start stop = .ok text) (h' : between start' stop' = .ok text')
    (helapsed : elapsed start stop ≤ elapsed start' stop') :
    ∃ n n', IsThousandths text n ∧ IsThousandths text' n' ∧ n ≤ n' := by
  obtain ⟨m, hm, rfl⟩ := exists_of_between_eq_ok h
  obtain ⟨m', hm', rfl⟩ := exists_of_between_eq_ok h'
  have hvalue : m.value ≤ m'.value := value_mono (by decide) helapsed hm hm'
  exact ⟨_, _, isThousandths_thousandthsText _, isThousandths_thousandthsText _,
    Magnitude.thousandths_mono hvalue⟩

end Duration

namespace Resolve

theorem timeTo_of_ints {marks : Marks} {start stop : Int} {text : String}
    (hstart : marks.startedAt = .int start) (h : timeTo marks (.int stop) = .ok (.text text)) :
    Duration.between start stop = .ok text := by
  unfold timeTo at h
  rw [if_neg (by simp [hstart]), hstart] at h
  obtain ⟨shown, hshown, heq⟩ := exists_of_bind_eq_ok h
  obtain rfl : shown = text := by
    cases heq
    rfl
  exact hshown

theorem responseTime_le_timeTo {marks : Marks} {start sent stop : Int} {text text' : String}
    (hstart : marks.startedAt = .int start) (hsent : marks.headersSentAt = .int sent)
    (hstop : sent ≤ stop) (h : responseTime marks = .ok (.text text))
    (h' : timeTo marks (.int stop) = .ok (.text text')) :
    ∃ n n', IsThousandths text n ∧ IsThousandths text' n' ∧ n ≤ n' := by
  rw [responseTime, if_neg (by simp [hsent]), hsent] at h
  have helapsed : Duration.elapsed start sent ≤ Duration.elapsed start stop := by
    unfold Duration.elapsed
    omega
  exact Duration.between_mono (timeTo_of_ints hstart h) (timeTo_of_ints hstart h') helapsed

end Resolve

end AccessLog
