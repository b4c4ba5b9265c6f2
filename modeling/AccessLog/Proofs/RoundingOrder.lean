import AccessLog.Line.Duration
import Mathlib.Algebra.Order.Field.Power
import Mathlib.Data.Rat.Cast.Order
import Mathlib.Tactic.FieldSimp
import Mathlib.Tactic.Linarith
import Mathlib.Tactic.Positivity
import Mathlib.Tactic.Ring

/-!
# Printed durations keep their order

A duration is rounded twice before it is printed: the quotient to 53 significant bits, and
the binary number to thousandths. Each rounding keeps the order of what it rounds, so of two
durations the longer one never prints as the smaller number (`Magnitude.thousandths_mono`),
whatever the size of the ticks.

The first rounding takes its unit from the number that it rounds. Two numbers with the same
unit keep their order because they are rounded alike. Otherwise the larger one has the larger
unit, and a power of two lies between the two results (`two_pow_le_inUnits`,
`inUnits_le_two_pow`).
-/

namespace AccessLog.Number

/-! ## To a whole number -/

theorem two_mul_mod_of_halfway {a b s : Nat} (hb : 0 < b) (h : 2 * a = (2 * s + 1) * b) :
    2 * (a % b) = b := by
  have hsplit : 2 * a = b + 2 * b * s := by rw [h]; ring
  calc 2 * (a % b) = 2 * a % (2 * b) := (Nat.mul_mod_mul_left 2 a b).symm
    _ = (b + 2 * b * s) % (2 * b) := by rw [hsplit]
    _ = b % (2 * b) := Nat.add_mul_mod_self_left b (2 * b) s
    _ = b := Nat.mod_eq_of_lt (by omega)

theorem roundHalfEven_mono {a b c d : Nat} (hb : 0 < b) (hd : 0 < d) (h : a * d ≤ c * b) :
    roundHalfEven a b ≤ roundHalfEven c d := by
  by_contra hlt
  have habove := two_mul_roundHalfEven_le a hb
  have hbelow := le_two_mul_roundHalfEven c hd
  have heven : 2 * (a % b) = b → roundHalfEven a b % 2 = 0 := roundHalfEven_tie_even
  have heven' : 2 * (c % d) = d → roundHalfEven c d % 2 = 0 := roundHalfEven_tie_even
  generalize roundHalfEven a b = r at *
  generalize roundHalfEven c d = s at *
  have hstep : (s + 1) * b ≤ r * b := Nat.mul_le_mul_right b (by omega)
  -- Between `s` and `s + 1` there is room for both quotients only half way.
  have hlow : (2 * s + 1) * b ≤ 2 * a := by linarith
  have hhigh : 2 * c ≤ (2 * s + 1) * d := by linarith
  have hlow' : (2 * s + 1) * b * d ≤ 2 * a * d := Nat.mul_le_mul_right d hlow
  have hhigh' : 2 * c * b ≤ (2 * s + 1) * d * b := Nat.mul_le_mul_right b hhigh
  have hfirst : 2 * a = (2 * s + 1) * b := Nat.eq_of_mul_eq_mul_right hd (by linarith)
  have hsecond : 2 * c = (2 * s + 1) * d := Nat.eq_of_mul_eq_mul_right hb (by linarith)
  have hnext : r ≤ s + 1 := by
    refine Nat.le_of_mul_le_mul_right ?_ hb
    linarith
  have hr := heven (two_mul_mod_of_halfway hb hfirst)
  have hs := heven' (two_mul_mod_of_halfway hd hsecond)
  omega

/-! ## To units of a power of two -/

theorem two_zpow_eq (e : ℤ) : (2 : ℚ) ^ e = 2 ^ e.toNat / 2 ^ (-e).toNat := by
  rw [← zpow_natCast, ← zpow_natCast, ← zpow_sub₀ two_ne_zero]
  congr 1
  omega

/-- A power of two is compared with a quotient by shifting either side. -/
theorem shifted_le_iff {num den k : Nat} (hden : 0 < den) (e : ℤ) :
    k * (den * Nat.pow 2 e.toNat) ≤ num * Nat.pow 2 (-e).toNat ↔
      (k : ℚ) * 2 ^ e ≤ num / den := by
  have hden' : (0 : ℚ) < den := by exact_mod_cast hden
  have hpow : (0 : ℚ) < 2 ^ (-e).toNat := by positivity
  rw [two_zpow_eq, ← mul_div_assoc, div_le_div_iff₀ hpow hden', ← Nat.cast_le (α := ℚ)]
  push_cast [Nat.pow_eq]
  rw [show (k : ℚ) * (den * 2 ^ e.toNat) = k * 2 ^ e.toNat * den by ring]

theorem le_shifted_iff {num den k : Nat} (hden : 0 < den) (e : ℤ) :
    num * Nat.pow 2 (-e).toNat ≤ k * (den * Nat.pow 2 e.toNat) ↔
      (num : ℚ) / den ≤ k * 2 ^ e := by
  have hden' : (0 : ℚ) < den := by exact_mod_cast hden
  have hpow : (0 : ℚ) < 2 ^ (-e).toNat := by positivity
  rw [two_zpow_eq, ← mul_div_assoc, div_le_div_iff₀ hden' hpow, ← Nat.cast_le (α := ℚ)]
  push_cast [Nat.pow_eq]
  rw [show (k : ℚ) * (den * 2 ^ e.toNat) = k * 2 ^ e.toNat * den by ring]

theorem two_zpow_le_iff (num : Nat) {den : Nat} (hden : 0 < den) (e : ℤ) :
    den * Nat.pow 2 e.toNat ≤ num * Nat.pow 2 (-e).toNat ↔ (2 : ℚ) ^ e ≤ num / den := by
  have hshifted : 1 * (den * Nat.pow 2 e.toNat) ≤ num * Nat.pow 2 (-e).toNat ↔
      ((1 : Nat) : ℚ) * 2 ^ e ≤ num / den := shifted_le_iff hden e
  rwa [Nat.cast_one, one_mul, one_mul] at hshifted

theorem inUnits_mono {num num' den : Nat} (hden : 0 < den) (h : num ≤ num') (e : ℤ) :
    inUnits num den e ≤ inUnits num' den e := by
  have hpos : 0 < den * Nat.pow 2 e.toNat := Nat.mul_pos hden (Nat.pow_pos (by decide))
  refine roundHalfEven_mono hpos hpos (Nat.mul_le_mul_right _ ?_)
  exact Nat.mul_le_mul_right _ h

theorem le_inUnits {num den k : Nat} (hden : 0 < den) {e : ℤ} (h : (k : ℚ) * 2 ^ e ≤ num / den) :
    k ≤ inUnits num den e := by
  have hpos : 0 < den * Nat.pow 2 e.toNat := Nat.mul_pos hden (Nat.pow_pos (by decide))
  have hshifted := (shifted_le_iff hden e).mpr h
  calc k = roundHalfEven (k * (den * Nat.pow 2 e.toNat)) (den * Nat.pow 2 e.toNat) :=
        (roundHalfEven_mul_right k hpos).symm
    _ ≤ inUnits num den e := roundHalfEven_mono hpos hpos (Nat.mul_le_mul_right _ hshifted)

theorem inUnits_le {num den k : Nat} (hden : 0 < den) {e : ℤ} (h : (num : ℚ) / den ≤ k * 2 ^ e) :
    inUnits num den e ≤ k := by
  have hpos : 0 < den * Nat.pow 2 e.toNat := Nat.mul_pos hden (Nat.pow_pos (by decide))
  have hshifted := (le_shifted_iff hden e).mpr h
  calc inUnits num den e
      ≤ roundHalfEven (k * (den * Nat.pow 2 e.toNat)) (den * Nat.pow 2 e.toNat) :=
        roundHalfEven_mono hpos hpos (Nat.mul_le_mul_right _ hshifted)
    _ = k := roundHalfEven_mul_right k hpos

/-! ## To 53 significant bits -/

/-- The leading bit of a quotient has the greatest weight that is not above it. -/
theorem leadingBit_spec {num den : Nat} (hnum : 0 < num) (hden : 0 < den) :
    (2 : ℚ) ^ leadingBit num den ≤ num / den ∧
      (num : ℚ) / den < 2 ^ (leadingBit num den + 1) := by
  have hnumLow : 2 ^ num.log2 ≤ num := Nat.log2_self_le hnum.ne'
  have hnumHigh : num < 2 ^ (num.log2 + 1) := Nat.lt_log2_self
  have hdenLow : 2 ^ den.log2 ≤ den := Nat.log2_self_le hden.ne'
  have hdenHigh : den < 2 ^ (den.log2 + 1) := Nat.lt_log2_self
  have hguess := two_zpow_le_iff num hden ((num.log2 : ℤ) - den.log2)
  unfold leadingBit
  generalize num.log2 = n at *
  generalize den.log2 = d at *
  have hden' : (0 : ℚ) < den := by exact_mod_cast hden
  -- The two bit lengths leave the leading bit two places.
  have hlow : (2 : ℚ) ^ ((n : ℤ) - d - 1) ≤ num / den := by
    rw [le_div_iff₀ hden']
    calc (2 : ℚ) ^ ((n : ℤ) - d - 1) * den
        ≤ 2 ^ ((n : ℤ) - d - 1) * 2 ^ (d + 1) := by
          gcongr
          exact_mod_cast hdenHigh.le
      _ = 2 ^ n := by
          rw [← zpow_natCast, ← zpow_natCast, ← zpow_add₀ two_ne_zero]
          congr 1
          push_cast
          ring
      _ ≤ num := by exact_mod_cast hnumLow
  have hhigh : (num : ℚ) / den < 2 ^ ((n : ℤ) - d + 1) := by
    rw [div_lt_iff₀ hden']
    calc (num : ℚ) < 2 ^ (n + 1) := by exact_mod_cast hnumHigh
      _ = 2 ^ ((n : ℤ) - d + 1) * 2 ^ d := by
          rw [← zpow_natCast, ← zpow_natCast, ← zpow_add₀ two_ne_zero]
          congr 1
          push_cast
          ring
      _ ≤ 2 ^ ((n : ℤ) - d + 1) * den := by
          gcongr
          exact_mod_cast hdenLow
  by_cases hreached : den * Nat.pow 2 ((n : ℤ) - d).toNat ≤ num * Nat.pow 2 (-((n : ℤ) - d)).toNat
  · rw [if_pos hreached]
    exact ⟨hguess.mp hreached, hhigh⟩
  · rw [if_neg hreached]
    have hbelow := not_le.mp (hguess.not.mp hreached)
    exact ⟨hlow, by simpa using hbelow⟩

theorem leadingBit_mono {num num' den : Nat} (hnum : 0 < num) (hden : 0 < den) (h : num ≤ num') :
    leadingBit num den ≤ leadingBit num' den := by
  have hlow := (leadingBit_spec hnum hden).1
  have hhigh := (leadingBit_spec (hnum.trans_le h) hden).2
  have hquotient : (num : ℚ) / den ≤ num' / den := by
    gcongr
  have hlt := (zpow_lt_zpow_iff_right₀ one_lt_two).mp (hlow.trans_lt (hquotient.trans_lt hhigh))
  omega

/-- The weight of the last place that a quotient is rounded to. -/
def lastPlace (num den : Nat) : ℤ := max (leadingBit num den - 52) leastExponent

def Magnitude.value (x : Magnitude) : ℚ := x.significand * 2 ^ x.exponent

theorem Magnitude.num_div_den (x : Magnitude) : (x.num : ℚ) / x.den = x.value := by
  rw [num, den, value, two_zpow_eq]
  push_cast [Nat.pow_eq]
  ring

theorem Magnitude.den_pos (x : Magnitude) : 0 < x.den := Nat.pow_pos (by decide)

/-- A quotient is rounded to its last place, and a significand that is renormalised keeps its
value. -/
theorem value_of_magnitudeOf? {num den : Nat} (hnum : 0 < num) {x : Magnitude}
    (h : magnitudeOf? num den = some x) :
    x.value = inUnits num den (lastPlace num den) * 2 ^ lastPlace num den := by
  rw [magnitudeOf?, if_neg hnum.ne'] at h
  dsimp only at h
  rw [← lastPlace] at h
  generalize lastPlace num den = e at *
  generalize inUnits num den e = n at *
  by_cases hcarry : n = Nat.pow 2 53
  · rw [if_pos hcarry] at h
    obtain ⟨-, rfl⟩ : _ ∧ _ := by simpa using h
    rw [hcarry, Magnitude.value, zpow_add₀ two_ne_zero]
    push_cast [Nat.pow_eq]
    ring
  · rw [if_neg hcarry] at h
    obtain ⟨-, rfl⟩ : _ ∧ _ := by simpa using h
    rfl

theorem value_of_magnitudeOf?_zero {den : Nat} {x : Magnitude}
    (h : magnitudeOf? 0 den = some x) : x.value = 0 := by
  obtain rfl := Option.some.inj h
  simp [Magnitude.value]

/-- The larger unit is that of a number whose leading bit stands at place 52. -/
theorem two_pow_le_inUnits {num den : Nat} (hnum : 0 < num) (hden : 0 < den)
    (h : leastExponent < lastPlace num den) : 2 ^ 52 ≤ inUnits num den (lastPlace num den) := by
  have hplace : lastPlace num den + 52 = leadingBit num den := by
    rw [lastPlace] at h ⊢
    omega
  refine le_inUnits hden ?_
  calc ((2 ^ 52 : Nat) : ℚ) * 2 ^ lastPlace num den = 2 ^ leadingBit num den := by
        rw [← hplace, zpow_add₀ two_ne_zero]
        push_cast
        ring
    _ ≤ num / den := (leadingBit_spec hnum hden).1

theorem inUnits_le_two_pow {num den : Nat} (hnum : 0 < num) (hden : 0 < den) :
    inUnits num den (lastPlace num den) ≤ 2 ^ 53 := by
  have hplace : leadingBit num den + 1 ≤ lastPlace num den + 53 := by
    rw [lastPlace]
    omega
  refine inUnits_le hden ?_
  calc (num : ℚ) / den ≤ 2 ^ (leadingBit num den + 1) := (leadingBit_spec hnum hden).2.le
    _ ≤ 2 ^ (lastPlace num den + 53) := zpow_le_zpow_right₀ one_le_two hplace
    _ = ((2 ^ 53 : Nat) : ℚ) * 2 ^ lastPlace num den := by
        rw [zpow_add₀ two_ne_zero]
        push_cast
        ring

theorem value_mono {num num' den : Nat} (hden : 0 < den) (h : num ≤ num') {x y : Magnitude}
    (hx : magnitudeOf? num den = some x) (hy : magnitudeOf? num' den = some y) :
    x.value ≤ y.value := by
  rcases Nat.eq_zero_or_pos num with rfl | hnum
  · rw [value_of_magnitudeOf?_zero hx, Magnitude.value]
    positivity
  have hnum' := hnum.trans_le h
  have hplace : lastPlace num den ≤ lastPlace num' den := by
    have hlead := leadingBit_mono hnum hden h
    rw [lastPlace, lastPlace]
    omega
  have hlow := inUnits_le_two_pow hnum hden
  have hhigh := two_pow_le_inUnits hnum' hden
  have hleast : leastExponent ≤ lastPlace num den := le_max_right ..
  rw [value_of_magnitudeOf? hnum hx, value_of_magnitudeOf? hnum' hy]
  rcases hplace.eq_or_lt with heq | hlt
  · rw [← heq]
    have hunits := inUnits_mono hden h (lastPlace num den)
    gcongr
  · -- The larger unit is at least twice the smaller one, which makes up for the bit between
    -- the bounds of the two significands.
    have hunit : lastPlace num den + 1 ≤ lastPlace num' den := hlt
    have hlow' : (inUnits num den (lastPlace num den) : ℚ) ≤ 2 ^ 53 := by exact_mod_cast hlow
    have hhigh' : (2 : ℚ) ^ 52 ≤ inUnits num' den (lastPlace num' den) := by
      exact_mod_cast hhigh (hleast.trans_lt hlt)
    calc (inUnits num den (lastPlace num den) : ℚ) * 2 ^ lastPlace num den
        ≤ 2 ^ 53 * 2 ^ lastPlace num den := by gcongr
      _ = 2 ^ 52 * 2 ^ (lastPlace num den + 1) := by
          rw [zpow_add₀ two_ne_zero]
          ring
      _ ≤ 2 ^ 52 * 2 ^ lastPlace num' den := by
          gcongr
          exact one_le_two
      _ ≤ inUnits num' den (lastPlace num' den) * 2 ^ lastPlace num' den := by gcongr

/-! ## To thousandths -/

theorem Magnitude.thousandths_mono {x y : Magnitude} (h : x.value ≤ y.value) :
    x.thousandths ≤ y.thousandths := by
  refine roundHalfEven_mono x.den_pos y.den_pos ?_
  have hx : (0 : ℚ) < x.den := by exact_mod_cast x.den_pos
  have hy : (0 : ℚ) < y.den := by exact_mod_cast y.den_pos
  rw [← x.num_div_den, ← y.num_div_den, div_le_div_iff₀ hx hy] at h
  have hcross : x.num * y.den ≤ y.num * x.den := by exact_mod_cast h
  calc x.num * 1000 * y.den = 1000 * (x.num * y.den) := by ring
    _ ≤ 1000 * (y.num * x.den) := Nat.mul_le_mul_left 1000 hcross
    _ = y.num * 1000 * x.den := by ring

end AccessLog.Number
