import AccessLog.Proofs.Milliseconds

/-!
# How exact a printed duration is

A duration is rounded to a binary number first and then to thousandths of a millisecond. Both
are at most half a unit off (`abs_value_sub_le`, `Magnitude.abs_thousandths_sub_le`). As long
as the nanoseconds have 53 bits, half a unit of the first rounding is less than a nanosecond,
so it cannot move a duration across the middle between two microseconds: the printed number
is a nearest one to the duration itself (`Duration.ofTicks_precise`).
-/

namespace AccessLog

namespace Number

/-! ## Half a unit -/

theorem abs_roundHalfEven_sub_le (num : Nat) {den : Nat} (hden : 0 < den) :
    |(roundHalfEven num den : ℚ) - num / den| ≤ 1 / 2 := by
  have hden' : (0 : ℚ) < den := by exact_mod_cast hden
  have habove : 2 * ((roundHalfEven num den : ℚ) * den) ≤ 2 * num + den := by
    exact_mod_cast two_mul_roundHalfEven_le num hden
  have hbelow : 2 * (num : ℚ) ≤ 2 * (roundHalfEven num den * den) + den := by
    exact_mod_cast le_two_mul_roundHalfEven num hden
  rw [abs_le, neg_le_sub_iff_le_add, sub_le_iff_le_add, div_le_iff₀ hden', ← sub_le_iff_le_add',
    le_div_iff₀ hden']
  constructor <;> linarith

/-- A number of units is at most half a unit off. -/
theorem abs_inUnits_sub_le (num : Nat) {den : Nat} (hden : 0 < den) (e : ℤ) :
    |(inUnits num den e : ℚ) * 2 ^ e - num / den| ≤ 2 ^ e / 2 := by
  have hpos : 0 < den * Nat.pow 2 e.toNat := Nat.mul_pos hden (Nat.pow_pos (by decide))
  have hunit : (0 : ℚ) < 2 ^ e := by positivity
  have hquotient :
      ((num * Nat.pow 2 (-e).toNat : Nat) : ℚ) / (den * Nat.pow 2 e.toNat : Nat) * 2 ^ e =
        num / den := by
    rw [two_zpow_eq]
    push_cast [Nat.pow_eq]
    field_simp
  have hround := abs_roundHalfEven_sub_le (num * Nat.pow 2 (-e).toNat) hpos
  calc |(inUnits num den e : ℚ) * 2 ^ e - num / den|
      = |(inUnits num den e : ℚ) -
          ((num * Nat.pow 2 (-e).toNat : Nat) : ℚ) / (den * Nat.pow 2 e.toNat : Nat)| * 2 ^ e := by
        rw [← hquotient, ← sub_mul, abs_mul, abs_of_pos hunit]
    _ ≤ 1 / 2 * 2 ^ e := by
        gcongr
        exact hround
    _ = 2 ^ e / 2 := by ring

/-- The rounded value of a quotient is at most half of its last place off. -/
theorem abs_value_sub_le {num den : Nat} (hnum : 0 < num) (hden : 0 < den) {x : Magnitude}
    (h : magnitudeOf? num den = some x) :
    |x.value - num / den| ≤ 2 ^ lastPlace num den / 2 := by
  rw [value_of_magnitudeOf? hnum h]
  exact abs_inUnits_sub_le num hden _

theorem Magnitude.abs_thousandths_sub_le (x : Magnitude) :
    |(x.thousandths : ℚ) - 1000 * x.value| ≤ 1 / 2 := by
  have hvalue : ((x.num * 1000 : Nat) : ℚ) / x.den = 1000 * x.value := by
    rw [← x.num_div_den]
    push_cast
    ring
  rw [← hvalue]
  exact abs_roundHalfEven_sub_le (x.num * 1000) x.den_pos

/-- A quotient whose last place is below the greatest one is within the range. -/
theorem exists_magnitudeOf? {num den : Nat} (h : lastPlace num den < greatestExponent) :
    ∃ x, magnitudeOf? num den = some x := by
  unfold magnitudeOf?
  split
  · exact ⟨_, rfl⟩
  · dsimp only
    rw [← lastPlace, if_neg]
    · exact ⟨_, rfl⟩
    · split
      · exact not_lt.mpr h
      · exact not_lt.mpr h.le

/-! ## Leading zeros -/

theorem head?_digits_ne_zero {n : Nat} (hn : 0 < n) : (digits n).head? ≠ some '0' := by
  have hdigit : ∀ d : Fin 10, 0 < d.val → some (Nat.digitChar d.val) ≠ some '0' := by decide
  induction n using Nat.strongRecOn with
  | ind n ih =>
      unfold digits
      rw [Nat.toDigits_eq_if (by decide)]
      split
      · rename_i hlt
        exact hdigit ⟨n, hlt⟩ hn
      · rename_i hle
        rw [List.head?_append_of_ne_nil _ Nat.toDigits_ne_nil]
        exact ih (n / 10) (by omega) (by omega)

/-- No zero stands before other digits of the whole part. -/
def HasNoIdleZero (text : String) : Prop :=
  ∀ rest, text.toList = '0' :: rest → rest.head? = some '.'

theorem hasNoIdleZero_thousandthsText (n : Nat) : HasNoIdleZero (thousandthsText n) := by
  intro rest hrest
  have htext : digits (n / 1000) ++ '.' :: padded 3 (n % 1000) = '0' :: rest := by
    simpa [thousandthsText, natText] using hrest
  rcases Nat.eq_zero_or_pos (n / 1000) with hzero | hpos
  · rw [hzero] at htext
    obtain ⟨-, rfl⟩ := List.cons.inj htext
    rfl
  · have hhead := congrArg List.head? htext
    have hne : digits (n / 1000) ≠ [] := Nat.toDigits_ne_nil
    rw [List.head?_append_of_ne_nil _ hne] at hhead
    exact absurd hhead (head?_digits_ne_zero hpos)

end Number

open Number

namespace Duration

/-! ## Nanoseconds of 53 bits -/

theorem lastPlace_le {d : Nat} (hd : 0 < d) (hbits : d < 2 ^ 53) :
    lastPlace d perMillisecond ≤ -19 := by
  have hlead := (leadingBit_spec hd (show 0 < perMillisecond by decide)).1
  have hquotient : (d : ℚ) / perMillisecond < 2 ^ (34 : ℤ) := by
    have hd' : (d : ℚ) < 2 ^ 53 := by exact_mod_cast hbits
    rw [perMillisecond, div_lt_iff₀ (by norm_num)]
    refine hd'.trans ?_
    norm_num
  have hlt := (zpow_lt_zpow_iff_right₀ one_lt_two).mp (hlead.trans_lt hquotient)
  unfold lastPlace leastExponent
  omega

/-- The binary number of a duration of 53 bits is less than a nanosecond off. -/
theorem exists_magnitude {d : Nat} (hbits : d < 2 ^ 53) :
    ∃ x, magnitudeOf? d perMillisecond = some x ∧ |1000000 * x.value - d| < 1 := by
  rcases Nat.eq_zero_or_pos d with rfl | hd
  · refine ⟨_, rfl, ?_⟩
    have hzero : magnitudeOf? 0 perMillisecond = some ⟨0, leastExponent⟩ := rfl
    rw [value_of_magnitudeOf?_zero hzero]
    norm_num
  · have hplace := lastPlace_le hd hbits
    obtain ⟨x, hx⟩ := exists_magnitudeOf? (hplace.trans_lt (by decide))
    refine ⟨x, hx, ?_⟩
    have hvalue := abs_value_sub_le hd (by decide) hx
    have hunit : (2 : ℚ) ^ lastPlace d perMillisecond ≤ 2 ^ (-19 : ℤ) :=
      zpow_le_zpow_right₀ one_le_two hplace
    have hscaled : 1000000 * x.value - d = 1000000 * (x.value - d / perMillisecond) := by
      rw [perMillisecond]
      push_cast
      ring
    calc |1000000 * x.value - d| = 1000000 * |x.value - d / perMillisecond| := by
          rw [hscaled, abs_mul, abs_of_pos (by norm_num)]
      _ ≤ 1000000 * (2 ^ lastPlace d perMillisecond / 2) := by gcongr
      _ ≤ 1000000 * (2 ^ (-19 : ℤ) / 2) := by gcongr
      _ < 1 := by norm_num

/-- A whole number of nanoseconds cannot be more than 500 off when it is less than 501 off. -/
theorem abs_thousandths_sub_le_of_close {d : Nat} {x : Magnitude}
    (hclose : |1000000 * x.value - d| < 1) : |1000 * (x.thousandths : ℤ) - d| ≤ 500 := by
  have hround := x.abs_thousandths_sub_le
  have hlt : |1000 * (x.thousandths : ℚ) - d| < 501 := by
    rw [abs_le] at hround
    rw [abs_lt] at hclose ⊢
    constructor <;> linarith
  have hint : |1000 * (x.thousandths : ℤ) - d| < 501 := by exact_mod_cast hlt
  omega

theorem abs_sub_lt_of_ne {d n m : Nat} (h : |1000 * (n : ℤ) - d| ≤ 500) (htie : d % 1000 ≠ 500)
    (hne : m ≠ n) : |1000 * (n : ℤ) - d| < |1000 * (m : ℤ) - d| := by
  rcases abs_cases (1000 * (n : ℤ) - d) with ⟨hn, -⟩ | ⟨hn, -⟩ <;>
    rcases abs_cases (1000 * (m : ℤ) - d) with ⟨hm, hsign⟩ | ⟨hm, hsign⟩ <;> omega

/-- **How exact a printed duration is.** The time between two integer ticks is printed, if it
is within the range, as a number with exactly three places, without a sign and without a zero
that could be left out. When it has at most 53 bits it is within the range, and the number in
microseconds is at most 500 nanoseconds off: it is the nearest one, unless the duration lies
half way between two. Of two durations of any size, the longer one is not printed as the
smaller number. -/
theorem ofTicks_precise (start stop : Int) :
    (∀ text, ofTicks (.int start) (.int stop) = .ok text →
        HasNoIdleZero text ∧ ∃ n, IsThousandths text n) ∧
      (elapsed start stop < 2 ^ 53 →
        ∃ text n, ofTicks (.int start) (.int stop) = .ok text ∧ IsThousandths text n ∧
          |1000 * (n : ℤ) - elapsed start stop| ≤ 500 ∧
          (elapsed start stop % 1000 ≠ 500 → ∀ m : Nat, m ≠ n →
            |1000 * (n : ℤ) - elapsed start stop| < |1000 * (m : ℤ) - elapsed start stop|)) ∧
      ∀ start' stop' text text' n n', elapsed start stop ≤ elapsed start' stop' →
        ofTicks (.int start) (.int stop) = .ok text →
        ofTicks (.int start') (.int stop') = .ok text' →
        IsThousandths text n → IsThousandths text' n' → n ≤ n' := by
  refine ⟨?form, ?exact, ?order⟩
  case form =>
    intro text htext
    obtain ⟨x, -, rfl⟩ := exists_of_between_eq_ok htext
    exact ⟨hasNoIdleZero_thousandthsText _, _, isThousandths_thousandthsText _⟩
  case exact =>
    intro hbits
    obtain ⟨x, hx, hclose⟩ := exists_magnitude hbits
    have hnear := abs_thousandths_sub_le_of_close hclose
    refine ⟨thousandthsText x.thousandths, x.thousandths, ?_, isThousandths_thousandthsText _,
      hnear, fun htie m => abs_sub_lt_of_ne hnear htie⟩
    show between start stop = _
    rw [between, millis?, hx]
    rfl
  case order =>
    intro start' stop' text text' n n' helapsed htext htext' hn hn'
    obtain ⟨k, k', hk, hk', hle⟩ := between_mono htext htext' helapsed
    rwa [hn.unique hk, hn'.unique hk']

/-- Half a microsecond goes up or down, as its binary number lies above or below it. -/
example : (ofTicks (.int 0) (.int 500)).toOption = some "0.001" ∧
    (ofTicks (.int 0) (.int 1500)).toOption = some "0.002" ∧
    (ofTicks (.int 0) (.int 4500)).toOption = some "0.004" := by
  decide +kernel

end Duration

end AccessLog
