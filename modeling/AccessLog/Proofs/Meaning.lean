import AccessLog.Proofs.RoundingOrder
import AccessLog.Value.Same

/-!
# Values of one meaning

A value that holds no others means a quantity, a text, bytes or nothing at all, whatever kind
of value it is: an integer, a truth value and a floating-point number mean their quantity, and a
buffer means its bytes. Two values coincide when they have one meaning, or are tuples of
elements that coincide.

What can be computed of this is right for every value that may be a key
(`Value.same_iff_coincide`): integers and floating-point numbers are compared without rounding.
Coinciding carries over from one value to the next (`Value.Coincide.trans`), so a collection
that keeps only the first of all values that coincide lacks none of them
(`Value.isAmong_distinct_iff`).
-/

namespace AccessLog

/-! ## Quantities -/

/-- What a number means. -/
inductive Quantity where
  | finite (q : ℚ)
  | infinite (negative : Bool)

namespace Number

/-- The value of a magnitude is an integer just when the division comes out even. -/
theorem Magnitude.value_eq_intCast_iff {m : Magnitude} {n : ℤ} :
    m.value = n ↔ m.num % m.den = 0 ∧ ((m.num / m.den : Nat) : ℤ) = n := by
  have hden : (m.den : ℚ) ≠ 0 := by exact_mod_cast m.den_pos.ne'
  have hden' : (m.den : ℤ) ≠ 0 := by exact_mod_cast m.den_pos.ne'
  rw [← m.num_div_den, div_eq_iff hden]
  norm_cast
  constructor
  · intro h
    have hdvd : m.den ∣ m.num := Int.natCast_dvd_natCast.mp (Dvd.intro_left n h.symm)
    refine ⟨Nat.mod_eq_zero_of_dvd hdvd, ?_⟩
    rw [Int.natCast_ediv, h, Int.mul_ediv_cancel n hden']
  · rintro ⟨hmod, rfl⟩
    exact_mod_cast (Nat.div_mul_cancel (Nat.dvd_of_mod_eq_zero hmod)).symm

namespace Binary64

def signed (negative : Bool) (q : ℚ) : ℚ := if negative then -q else q

/-- The quantity of a number; `nan` has none. -/
def quantity? : Binary64 → Option Quantity
  | .nan => none
  | .infinite negative => some (.infinite negative)
  | .finite negative m => some (.finite (signed negative m.value))

/-- A unit that is small enough is exact. -/
theorem atExponent_mul_two_zpow (negative : Bool) {m : Magnitude} {e : ℤ} (h : e ≤ m.exponent) :
    (atExponent negative m e : ℚ) * 2 ^ e = signed negative m.value := by
  have hunits :
      ((m.significand * Nat.pow 2 (m.exponent - e).toNat : Nat) : ℚ) * 2 ^ e = m.value := by
    have hexponent : ((m.exponent - e).toNat : ℤ) + e = m.exponent := by omega
    rw [Magnitude.value, Nat.cast_mul, mul_assoc, Nat.pow_eq]
    push_cast
    rw [← zpow_natCast, ← zpow_add₀ two_ne_zero, hexponent]
  rw [atExponent, signed]
  cases negative with
  | false => simpa using hunits
  | true => simpa using hunits

theorem signed_eq_iff {s t : Bool} {x y : Magnitude} :
    signed s x.value = signed t y.value ↔
      atExponent s x (min x.exponent y.exponent) = atExponent t y (min x.exponent y.exponent) := by
  have hunit : (2 : ℚ) ^ min x.exponent y.exponent ≠ 0 := zpow_ne_zero _ two_ne_zero
  rw [← atExponent_mul_two_zpow s (min_le_left x.exponent y.exponent),
    ← atExponent_mul_two_zpow t (min_le_right x.exponent y.exponent), mul_left_inj' hunit,
    Int.cast_inj]

theorem numericEq_iff {x y : Binary64} :
    x.numericEq y = true ↔ ∃ q, x.quantity? = some q ∧ y.quantity? = some q := by
  cases x with
  | nan => simp [numericEq, quantity?]
  | infinite s =>
      cases y with
      | infinite t => simp [numericEq, quantity?, @eq_comm _ s t]
      | _ => simp [numericEq, quantity?]
  | finite s x =>
      cases y with
      | finite t y =>
          simp [numericEq, quantity?, ← signed_eq_iff, @eq_comm _ (signed s x.value)]
      | _ => simp [numericEq, quantity?]

/-- A number is read as an integer just when it means that integer. -/
theorem toInt?_eq_some_iff {x : Binary64} {n : ℤ} :
    x.toInt? = some n ↔ x.quantity? = some (.finite n) := by
  cases x with
  | nan => simp [toInt?, quantity?]
  | infinite s => simp [toInt?, quantity?]
  | finite s m =>
      have hvalue : signed s m.value = n ↔ m.value = ((if s then -n else n : ℤ) : ℚ) := by
        cases s with
        | false => simp [signed]
        | true => simp [signed, neg_eq_iff_eq_neg]
      simp only [toInt?, quantity?, Option.some.injEq, Quantity.finite.injEq, hvalue,
        Magnitude.value_eq_intCast_iff]
      cases s with
      | false => simp
      | true => simp [neg_eq_iff_eq_neg]

end Binary64

end Number

/-! ## Meanings -/

/-- What a value that holds no others means. -/
inductive Meaning where
  | nothing
  | quantity (q : Quantity)
  | text (s : String)
  | bytes (bs : List UInt8)

namespace Value

/-- The meaning of a value that holds no others. `nan` has none, and neither has an object: each
mention of it is one of its own. -/
def meaning? : Value → Option Meaning
  | .null => some .nothing
  | .bool b => some (.quantity (.finite (if b then 1 else 0)))
  | .int n => some (.quantity (.finite n))
  | .float x => x.quantity?.map .quantity
  | .text s => some (.text s)
  | .bytes bs => some (.bytes bs)
  | .buffer bs => some (.bytes bs)
  | _ => none

theorem sameScalar_iff {v w : Value} :
    v.sameScalar w = true ↔ ∃ m, v.meaning? = some m ∧ w.meaning? = some m := by
  rw [exists_congr fun m => and_comm]
  -- The two kinds settle the answer, except where both are kinds of numbers.
  cases v <;> cases w <;>
    simp [sameScalar, meaning?, toInt?, Number.Binary64.numericEq_iff,
      Number.Binary64.toInt?_eq_some_iff]
  case float.float => exact exists_congr fun q => and_comm
  case bool.bool a b => cases a <;> cases b <;> decide
  case bool.int a n => cases a <;> norm_cast
  case int.bool n b => cases b <;> norm_cast

/-- Values that count as one: those of one meaning, and tuples of values that count as one. -/
inductive Coincide : Value → Value → Prop
  | plain {v w : Value} {m : Meaning} (hv : v.meaning? = some m) (hw : w.meaning? = some m) :
      Coincide v w
  | nil : Coincide (.tuple []) (.tuple [])
  | cons {v w : Value} {vs ws : List Value} (hhead : Coincide v w)
      (htail : Coincide (.tuple vs) (.tuple ws)) : Coincide (.tuple (v :: vs)) (.tuple (w :: ws))

theorem Coincide.trans {u v w : Value} (huv : Coincide u v) (hvw : Coincide v w) :
    Coincide u w := by
  induction huv generalizing w with
  | plain hu hv =>
      cases hvw with
      | plain hv' hw => exact .plain hu (hw.trans (hv'.symm.trans hv))
      | nil => cases hv
      | cons => cases hv
  | nil => exact hvw
  | cons hhead htail ihhead ihtail =>
      cases hvw with
      | plain hv => cases hv
      | cons hhead' htail' => exact .cons (ihhead hhead') (ihtail htail')

/-- Does the value hold others, so that it has no meaning of its own? -/
def holdsOthers : Value → Bool
  | .list _ => true
  | .tuple _ => true
  | .table _ => true
  | _ => false

/-- A value that holds no others is compared by its meaning. -/
theorem same_iff_coincide_of_meaning {v w : Value} (h : v.holdsOthers = false) :
    v.same w = true ↔ v.Coincide w := by
  have hsame : v.same w = v.sameScalar w := by cases v <;> first | rfl | cases h
  rw [hsame, sameScalar_iff]
  constructor
  · rintro ⟨m, hv, hw⟩
    exact .plain hv hw
  · intro hcoincide
    cases hcoincide with
    | plain hv hw => exact ⟨_, hv, hw⟩
    | nil => cases h
    | cons => cases h

/-- A tuple counts as one with tuples only. -/
theorem exists_of_tuple_coincide {vs : List Value} {w : Value} (h : (tuple vs).Coincide w) :
    ∃ ws, w = .tuple ws := by
  cases h with
  | plain hv => cases hv
  | nil => exact ⟨_, rfl⟩
  | cons => exact ⟨_, rfl⟩

mutual

/-- What is computed is right for every value that may be a key. -/
theorem same_iff_coincide : (v w : Value) → v.isHashable = true →
    (v.same w = true ↔ v.Coincide w)
  | .tuple vs, w, h => by
    cases w with
    | tuple ws => exact sameAll_iff_coincide vs ws h
    | _ =>
      refine iff_of_false (by simp [same, sameScalar, toInt?]) fun hcoincide => ?_
      obtain ⟨ws, hws⟩ := exists_of_tuple_coincide hcoincide
      cases hws
  | .null, _, _ => same_iff_coincide_of_meaning rfl
  | .bool _, _, _ => same_iff_coincide_of_meaning rfl
  | .int _, _, _ => same_iff_coincide_of_meaning rfl
  | .float _, _, _ => same_iff_coincide_of_meaning rfl
  | .text _, _, _ => same_iff_coincide_of_meaning rfl
  | .bytes _, _, _ => same_iff_coincide_of_meaning rfl
  | .object _, _, _ => same_iff_coincide_of_meaning rfl

theorem sameAll_iff_coincide : (vs ws : List Value) → allHashable vs = true →
    (sameAll vs ws = true ↔ (tuple vs).Coincide (tuple ws))
  | [], [], _ => iff_of_true rfl .nil
  | [], w :: ws, _ => by
    refine iff_of_false Bool.false_ne_true fun hcoincide => ?_
    cases hcoincide with
    | plain hv => cases hv
  | v :: vs, [], _ => by
    refine iff_of_false Bool.false_ne_true fun hcoincide => ?_
    cases hcoincide with
    | plain hv => cases hv
  | v :: vs, w :: ws, h => by
    obtain ⟨hv, hvs⟩ : v.isHashable = true ∧ allHashable vs = true := by
      simpa [allHashable] using h
    have hhead := same_iff_coincide v w hv
    have htail := sameAll_iff_coincide vs ws hvs
    rw [sameAll, Bool.and_eq_true, hhead, htail]
    constructor
    · rintro ⟨hvw, hrest⟩
      exact .cons hvw hrest
    · intro hcoincide
      cases hcoincide with
      | plain hv => cases hv
      | cons hvw hrest => exact ⟨hvw, hrest⟩

end

/-! ## Values that may be keys -/

/-- A value that can change, or a tuple that holds one at any depth. -/
inductive CanChange : Value → Prop
  | buffer (bs : List UInt8) : CanChange (.buffer bs)
  | list (vs : List Value) : CanChange (.list vs)
  | table (entries : List (Value × Value)) : CanChange (.table entries)
  | inside {v : Value} {vs : List Value} (hmem : v ∈ vs) (h : CanChange v) : CanChange (.tuple vs)

mutual

theorem isHashable_iff : (v : Value) → (v.isHashable = true ↔ ¬ v.CanChange)
  | .buffer bs => iff_of_false Bool.false_ne_true fun h => h (.buffer bs)
  | .list vs => iff_of_false Bool.false_ne_true fun h => h (.list vs)
  | .table es => iff_of_false Bool.false_ne_true fun h => h (.table es)
  | .tuple vs => by
    rw [isHashable, allHashable_iff vs]
    constructor
    · intro h hchange
      cases hchange with
      | inside hmem hv => exact h _ hmem hv
    · intro h v hmem hv
      exact h (.inside hmem hv)
  | .null => iff_of_true rfl nofun
  | .bool _ => iff_of_true rfl nofun
  | .int _ => iff_of_true rfl nofun
  | .float _ => iff_of_true rfl nofun
  | .text _ => iff_of_true rfl nofun
  | .bytes _ => iff_of_true rfl nofun
  | .object _ => iff_of_true rfl nofun

theorem allHashable_iff : (vs : List Value) →
    (allHashable vs = true ↔ ∀ v ∈ vs, ¬ v.CanChange)
  | [] => iff_of_true rfl nofun
  | v :: vs => by
    rw [allHashable, Bool.and_eq_true, isHashable_iff v, allHashable_iff vs, List.forall_mem_cons]

end

/-! ## Collections without repetitions -/

theorem isAmong_iff_coincide {v : Value} (h : v.isHashable = true) {vs : List Value} :
    v.isAmong vs = true ↔ ∃ w ∈ vs, v.Coincide w := by
  simp only [isAmong, List.any_eq_true, same_iff_coincide v _ h]

/-- A value that is left out coincides with one that is kept, whatever has been kept before. -/
theorem exists_mem_keepFirst_iff {v : Value} {vs : List Value}
    (h : ∀ w ∈ vs, w.isHashable = true) (kept : List Value) :
    (∃ w ∈ vs.foldl (fun kept v => if v.isAmong kept then kept else kept ++ [v]) kept,
        v.Coincide w) ↔
      (∃ w ∈ kept, v.Coincide w) ∨ ∃ w ∈ vs, v.Coincide w := by
  induction vs generalizing kept with
  | nil => simp
  | cons u rest ih =>
      have hu := h u List.mem_cons_self
      rw [List.foldl_cons, ih fun w hw => h w (List.mem_cons_of_mem u hw)]
      by_cases hkept : u.isAmong kept = true
      · obtain ⟨k, hk, huk⟩ := (isAmong_iff_coincide hu).mp hkept
        have hleft : v.Coincide u → ∃ w ∈ kept, v.Coincide w := fun hvu => ⟨k, hk, hvu.trans huk⟩
        rw [if_pos hkept, List.exists_mem_cons_iff, ← or_assoc, or_iff_left_of_imp hleft]
      · rw [if_neg hkept]
        simp only [List.mem_append, List.mem_singleton, List.exists_mem_cons_iff, or_and_right,
          exists_or, exists_eq_left, or_assoc]

/-- A collection that keeps only the first of all values that coincide lacks none of them. -/
theorem isAmong_distinct_iff {v : Value} (hv : v.isHashable = true) {vs : List Value}
    (h : ∀ w ∈ vs, w.isHashable = true) :
    v.isAmong (distinct vs) = true ↔ ∃ w ∈ vs, v.Coincide w := by
  rw [isAmong_iff_coincide hv, distinct, exists_mem_keepFirst_iff h]
  simp

end Value

end AccessLog
