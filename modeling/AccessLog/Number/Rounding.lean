/-!
# Rounding a quotient

One rule serves every number this library prints: a quotient of natural
numbers goes to the nearest whole number, and a quotient exactly half way
goes to the even neighbour. The lemmas give the two facts that fix it: the
result is never further than half a unit away (`two_mul_roundHalfEven_le`,
`le_two_mul_roundHalfEven`), and an exact half lands on an even number
(`roundHalfEven_tie_even`).
-/

namespace AccessLog.Number

/-- `num / den` rounded to the nearest whole number, a half to the even
neighbour. A zero denominator gives zero plus the tie correction of its
remainder; callers pass a positive one. -/
def roundHalfEven (num den : Nat) : Nat :=
  let floor := num / den
  let rest := num % den
  if 2 * rest < den then floor
  else if den < 2 * rest then floor + 1
  else floor + floor % 2

/-- A quotient that is whole is kept. -/
theorem roundHalfEven_mul_right (n : Nat) {den : Nat} (h : 0 < den) :
    roundHalfEven (n * den) den = n := by
  simp [roundHalfEven, Nat.mul_div_cancel _ h, h]

/-- The result is at most half a unit above the quotient. -/
theorem two_mul_roundHalfEven_le (num : Nat) {den : Nat} (h : 0 < den) :
    2 * (roundHalfEven num den * den) ≤ 2 * num + den := by
  have hdiv := Nat.div_add_mod num den
  have hlt := Nat.mod_lt num h
  have heven : num / den % 2 ≤ 1 := by omega
  have hmul := Nat.mul_le_mul_right den heven
  have hcomm := Nat.mul_comm den (num / den)
  unfold roundHalfEven
  dsimp only
  split
  · omega
  · split
    · rw [Nat.add_mul]; omega
    · rw [Nat.add_mul]; omega

/-- The result is at most half a unit below the quotient. -/
theorem le_two_mul_roundHalfEven (num : Nat) {den : Nat} (h : 0 < den) :
    2 * num ≤ 2 * (roundHalfEven num den * den) + den := by
  have hdiv := Nat.div_add_mod num den
  have hlt := Nat.mod_lt num h
  have hcomm := Nat.mul_comm den (num / den)
  unfold roundHalfEven
  dsimp only
  split
  · omega
  · split
    · rw [Nat.add_mul]; omega
    · rw [Nat.add_mul]; omega

/-- A quotient exactly half way goes to an even number. -/
theorem roundHalfEven_tie_even {num den : Nat} (h : 2 * (num % den) = den) :
    roundHalfEven num den % 2 = 0 := by
  unfold roundHalfEven
  dsimp only
  rw [if_neg (by omega), if_neg (by omega)]
  omega

end AccessLog.Number
