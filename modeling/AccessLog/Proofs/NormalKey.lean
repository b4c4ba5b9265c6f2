import AccessLog.Format.Token
import AccessLog.Proofs.Lowering
import Mathlib.Data.List.DropRight

/-!
# The normal form of a key

The key of a field token is trimmed first and lowered then. Lowering touches nothing that
trimming or the brackets of a token look at: no character is lowered to a blank or to a
bracket (`not_inRanges_of_mem_lowerAfter`, for any ranges that the table keeps clear of). So
a lowered key is still trimmed, and the normal form of a normal form is that form itself
(`normalKey_normalKey`).
-/

namespace AccessLog

namespace Text

/-! ## Trimming -/

/-- There is no blank at either end of the text. -/
structure IsTrimmed (cs : List Char) : Prop where
  head : ∀ c ∈ cs.head?, isBlank c = false
  last : ∀ c ∈ cs.getLast?, isBlank c = false

theorem trim_eq_rdropWhile (cs : List Char) :
    trim cs = (cs.dropWhile isBlank).rdropWhile isBlank := rfl

theorem isTrimmed_trim (cs : List Char) : IsTrimmed (trim cs) := by
  rw [trim_eq_rdropWhile]
  constructor
  · intro c hc
    -- Trimming the end leaves a first character as it is.
    obtain ⟨tail, htail⟩ := List.rdropWhile_prefix isBlank (l := cs.dropWhile isBlank)
    have hhead : (cs.dropWhile isBlank).head? = some c :=
      htail ▸ List.mem_head?_append_of_mem_head? hc
    have hnot := List.head?_dropWhile_not isBlank cs
    rwa [hhead] at hnot
  · intro c hc
    obtain ⟨hne, rfl⟩ := List.mem_getLast?_eq_getLast hc
    exact Bool.eq_false_iff.mpr (List.rdropWhile_last_not isBlank _ hne)

theorem IsTrimmed.trim_eq {cs : List Char} (h : IsTrimmed cs) : trim cs = cs := by
  have hfront : cs.dropWhile isBlank = cs := by
    cases cs with
    | nil => rfl
    | cons c rest => exact List.dropWhile_cons_of_neg (by simp [h.head c rfl])
  rw [trim_eq_rdropWhile, hfront, List.rdropWhile_eq_self_iff]
  intro hne
  exact Bool.eq_false_iff.mp (h.last _ (List.getLast_mem_getLast? hne))

theorem mem_of_mem_trim {cs : List Char} {c : Char} (h : c ∈ trim cs) : c ∈ cs :=
  (List.dropWhile_sublist isBlank).subset ((List.rdropWhile_prefix isBlank _).subset h)

/-! ## Lowering keeps clear of other characters -/

namespace CaseRun

/-- Are the characters that a run is shifted to outside of a range? -/
def clears (run : CaseRun) (r : CodeRange) : Bool :=
  run.image.last < r.first || r.last < run.image.first

theorem not_mem_of_clears {run : CaseRun} {r : CodeRange} (h : run.clears r = true) {n : Nat}
    (hn : run.covers n = true) :
    ¬(r.first ≤ (n + run.shift).toNat ∧ (n + run.shift).toNat ≤ r.last) := by
  simp only [clears, Bool.or_eq_true, decide_eq_true_eq] at h
  simp only [covers, Bool.and_eq_true, decide_eq_true_eq] at hn
  dsimp only [image] at h
  omega

end CaseRun

/-- The characters that lowering writes apart from the table: the two forms of a small sigma,
what a dotted capital `I` becomes, and what a number stands for that is no character. -/
def specialForms : List Char := ['ς', 'σ', 'i', '\u0307', '\x00']

/-- Does lowering put no character into the ranges? -/
def isClearOf (ranges : List CodeRange) : Bool :=
  (lowercaseRuns.all fun run => ranges.all run.clears) &&
    specialForms.all fun c => !inRanges ranges c

section Clear

variable {ranges : List CodeRange} {before after : List Char} {c d : Char}

theorem not_inRanges_of_mem_specialForms (h : isClearOf ranges = true) (hc : c ∈ specialForms) :
    inRanges ranges c = false := by
  rw [isClearOf, Bool.and_eq_true] at h
  simpa using List.all_eq_true.mp h.2 c hc

theorem not_inRanges_lowerChar (h : isClearOf ranges = true) (hc : inRanges ranges c = false) :
    inRanges ranges (lowerChar c) = false := by
  rw [lowerChar]
  cases hfind : lowercaseRuns.find? (·.covers c.toNat) with
  | none => exact hc
  | some run =>
      have hcov := List.find?_some hfind
      show inRanges ranges (Char.ofNat (c.toNat + run.shift).toNat) = false
      by_cases hvalid : (c.toNat + run.shift).toNat.isValidChar
      · rw [Char.ofNat, dif_pos hvalid]
        refine Bool.eq_false_iff.mpr fun hin => ?_
        obtain ⟨r, hr, hmem⟩ := inRanges_iff.mp hin
        have hruns := (Bool.and_eq_true _ _ ▸ h : _ ∧ _).1
        have hclears := List.all_eq_true.mp
          (List.all_eq_true.mp hruns run (List.mem_of_find?_eq_some hfind)) r hr
        exact CaseRun.not_mem_of_clears hclears hcov hmem
      · rw [Char.ofNat, dif_neg hvalid]
        exact not_inRanges_of_mem_specialForms h (by decide)

theorem not_inRanges_of_mem_lowerAt (h : isClearOf ranges = true)
    (hc : inRanges ranges c = false) (hd : d ∈ lowerAt before c after) :
    inRanges ranges d = false := by
  rw [lowerAt] at hd
  split at hd
  · rw [List.mem_singleton.mp hd, lowerSigma]
    split <;> exact not_inRanges_of_mem_specialForms h (by decide)
  · split at hd
    · refine not_inRanges_of_mem_specialForms h ?_
      rcases List.mem_cons.mp hd with rfl | hd
      · decide
      · rw [List.mem_singleton.mp hd]
        decide
    · exact List.mem_singleton.mp hd ▸ not_inRanges_lowerChar h hc

theorem not_inRanges_of_mem_lowerAfter (h : isClearOf ranges = true) {cs : List Char}
    (hcs : ∀ c ∈ cs, inRanges ranges c = false) :
    ∀ {before}, d ∈ lowerAfter before cs → inRanges ranges d = false := by
  induction cs with
  | nil => simp [lowerAfter]
  | cons c rest ih =>
      intro before hd
      rw [lowerAfter] at hd
      obtain ⟨hc, hrest⟩ := List.forall_mem_cons.mp hcs
      exact (List.mem_append.mp hd).elim (not_inRanges_of_mem_lowerAt h hc) (ih hrest)

end Clear

theorem isClearOf_blankRanges : isClearOf blankRanges = true := by decide +kernel

/-! ## The ends of a lowered text -/

theorem lowerAt_ne_nil (before : List Char) (c : Char) (after : List Char) :
    lowerAt before c after ≠ [] := by
  unfold lowerAt
  split
  · exact List.cons_ne_nil _ _
  · split <;> exact List.cons_ne_nil _ _

theorem lowerAfter_ne_nil {cs : List Char} (h : cs ≠ []) (before : List Char) :
    lowerAfter before cs ≠ [] := by
  cases cs with
  | nil => exact absurd rfl h
  | cons c rest =>
      rw [lowerAfter]
      exact List.append_ne_nil_of_left_ne_nil (lowerAt_ne_nil _ _ _) _

theorem not_isBlank_last_lowerAfter {cs : List Char} {d : Char} :
    ∀ {before}, (∀ c ∈ cs.getLast?, isBlank c = false) →
      d ∈ (lowerAfter before cs).getLast? → isBlank d = false := by
  induction cs with
  | nil => exact fun _ hd => absurd hd (by simp [lowerAfter])
  | cons c rest ih =>
      intro before hlast hd
      rw [lowerAfter] at hd
      cases rest with
      | nil =>
          rw [lowerAfter, List.append_nil] at hd
          exact not_inRanges_of_mem_lowerAt isClearOf_blankRanges (hlast c rfl)
            (List.mem_of_getLast? hd)
      | cons c' rest =>
          have hne : lowerAfter (c :: before) (c' :: rest) ≠ [] :=
            lowerAfter_ne_nil (List.cons_ne_nil _ _) _
          rw [List.getLast?_append_of_ne_nil _ hne] at hd
          rw [List.getLast?_cons_cons] at hlast
          exact ih hlast hd

/-- Lowering puts no blank at the ends of a text. -/
theorem IsTrimmed.lowerAfter {cs : List Char} (h : IsTrimmed cs) (before : List Char) :
    IsTrimmed (lowerAfter before cs) := by
  refine ⟨fun d hd => ?_, fun d => not_isBlank_last_lowerAfter h.last⟩
  cases cs with
  | nil => cases hd
  | cons c rest =>
      rw [Text.lowerAfter, List.head?_append_of_ne_nil _ (lowerAt_ne_nil _ _ _)] at hd
      exact not_inRanges_of_mem_lowerAt isClearOf_blankRanges (h.head c rfl)
        (List.mem_of_head? hd)

end Text

/-! ## Normal keys -/

theorem toList_normalKey (inner : List Char) :
    (normalKey inner).toList = Text.lowerAfter [] (Text.trim inner) := by
  rw [normalKey, Text.lower, String.toList_ofList, String.toList_ofList]

theorem normalKey_eq_empty_iff {inner : List Char} :
    normalKey inner = "" ↔ Text.trim inner = [] := by
  rw [← String.toList_eq_nil_iff, toList_normalKey]
  constructor
  · intro h
    by_contra hne
    exact Text.lowerAfter_ne_nil hne [] h
  · intro h
    rw [h, Text.lowerAfter]

theorem isTrimmed_normalKey (inner : List Char) : Text.IsTrimmed (normalKey inner).toList := by
  rw [toList_normalKey]
  exact (Text.isTrimmed_trim inner).lowerAfter []

/-- A key in its normal form has no other normal form. -/
theorem normalKey_normalKey (inner : List Char) :
    normalKey (normalKey inner).toList = normalKey inner := by
  calc normalKey (normalKey inner).toList
      = Text.lower (String.ofList (normalKey inner).toList) := by
        rw [normalKey, (isTrimmed_normalKey inner).trim_eq]
    _ = Text.lower (normalKey inner) := by rw [String.ofList_toList]
    _ = normalKey inner := Text.lower_lower _

/-- The two brackets as ranges. -/
def bracketRanges : List Text.CodeRange := [⟨0x5B, 0x5B⟩, ⟨0x5D, 0x5D⟩]

theorem isBracket_eq_inRanges (c : Char) : isBracket c = Text.inRanges bracketRanges c := by
  have hopen : c = '[' ↔ c.toNat = 0x5B := Char.toNat_inj.symm
  have hclose : c = ']' ↔ c.toNat = 0x5D := Char.toNat_inj.symm
  rw [Bool.eq_iff_iff, Text.inRanges_iff, isBracket, Bool.or_eq_true, beq_iff_eq, beq_iff_eq,
    hopen, hclose]
  simp only [bracketRanges, List.exists_mem_cons_iff, List.not_mem_nil, false_and, exists_false,
    or_false]
  omega

/-- The normal form of a key brings no bracket into it. -/
theorem any_isBracket_normalKey {inner : List Char} (h : inner.any isBracket = false) :
    (normalKey inner).toList.any isBracket = false := by
  have hclear : Text.isClearOf bracketRanges = true := by decide +kernel
  rw [toList_normalKey]
  refine List.any_eq_false.mpr fun d hd => Bool.eq_false_iff.mp ?_
  rw [isBracket_eq_inRanges]
  refine Text.not_inRanges_of_mem_lowerAfter hclear (fun c hc => ?_) hd
  rw [← isBracket_eq_inRanges]
  exact Bool.eq_false_iff.mpr (List.any_eq_false.mp h c (Text.mem_of_mem_trim hc))

end AccessLog
