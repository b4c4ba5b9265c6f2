import AccessLog.Text.Lowercase

/-!
# Lowering a text twice

A text in lower case stays as it is when it is lowered again (`lower_lower`): no
character is lowered to one that has a lowercase form of its own. For single characters
this is a property of the table (`avoids_of_mem`), which is checked for whole runs at a
time. The two special characters are lowered to small letters and to a combining dot, and
which sigma stands at the end of a word is settled by the first lowering: a small sigma
has only one form.
-/

namespace AccessLog.Text

namespace CaseRun

/-- The first and the last character that a run is shifted to. -/
def image (run : CaseRun) : CodeRange :=
  ⟨(run.first + run.shift).toNat, (run.last + run.shift).toNat⟩

/-- Is none of a run's characters shifted to one of the other run's? Either the two lie
apart, or the other run has every second character and those between are hit. -/
def avoids (run other : CaseRun) : Bool :=
  run.image.last < other.first || other.last < run.image.first ||
    (0 ≤ run.shift && (run.stride == 2 || run.first == run.last) &&
      other.stride == 2 && (run.image.first + other.first) % 2 == 1)

/-- Where the check passes, a shifted character is not one of the other run's. -/
theorem not_covers_of_avoids {run other : CaseRun} (h : run.avoids other = true) {n : Nat}
    (hn : run.covers n = true) : other.covers (n + run.shift).toNat = false := by
  simp only [avoids, Bool.or_eq_true, Bool.and_eq_true, decide_eq_true_eq, beq_iff_eq] at h
  simp only [covers, Bool.and_eq_true, decide_eq_true_eq, beq_iff_eq] at hn
  refine Bool.eq_false_iff.mpr fun hcov => ?_
  simp only [covers, Bool.and_eq_true, decide_eq_true_eq, beq_iff_eq] at hcov
  dsimp only [image] at h
  rcases h with (h | h) | ⟨⟨⟨hshift, hstride | hsingle⟩, hother⟩, hparity⟩
  · omega
  · omega
  · rw [hstride] at hn
    rw [hother] at hcov
    omega
  · rw [hother] at hcov
    omega

end CaseRun

/-- The character whose lowercase form has two characters, as a run of its own. -/
def dottedRun : CaseRun := ⟨0x0130, 0x0130, 1, 0⟩

theorem covers_dottedRun_of_ne {c : Char} (h : c ≠ 'İ') : dottedRun.covers c.toNat = false := by
  have hne : c.toNat ≠ 0x130 := fun heq => h (Char.toNat_inj.mp heq)
  refine Bool.eq_false_iff.mpr fun hcov => ?_
  simp only [CaseRun.covers, Bool.and_eq_true, decide_eq_true_eq] at hcov
  dsimp only [dottedRun] at hcov
  omega

/-- No run is shifted to characters with a lowercase form of their own. -/
theorem avoids_of_mem {run other : CaseRun} (hrun : run ∈ lowercaseRuns)
    (hother : other ∈ dottedRun :: lowercaseRuns) : run.avoids other = true := by
  have htable : (lowercaseRuns.all fun run =>
      (dottedRun :: lowercaseRuns).all run.avoids) = true := by
    decide +kernel
  exact List.all_eq_true.mp (List.all_eq_true.mp htable run hrun) other hother

/-- Has the character no lowercase form but itself? -/
def IsLower (c : Char) : Prop := ∀ run ∈ dottedRun :: lowercaseRuns, run.covers c.toNat = false

instance (c : Char) : Decidable (IsLower c) := inferInstanceAs (Decidable (∀ run ∈ _, _))

namespace IsLower

theorem lowerChar_eq {c : Char} (h : IsLower c) : lowerChar c = c := by
  have hnone : lowercaseRuns.find? (·.covers c.toNat) = none :=
    List.find?_eq_none.mpr fun run hrun =>
      Bool.eq_false_iff.mp (h run (List.mem_cons_of_mem _ hrun))
  rw [lowerChar, hnone]

/-- Neither of the two special characters is in lower case. -/
theorem lowerAt_eq {c : Char} (h : IsLower c) (before after : List Char) :
    lowerAt before c after = [c] := by
  have hsigma : c ≠ 'Σ' := fun heq => absurd (heq ▸ h) (by decide +kernel)
  have hdotted : c ≠ 'İ' := fun heq => absurd (heq ▸ h) (by decide +kernel)
  rw [lowerAt, if_neg hsigma, if_neg hdotted, h.lowerChar_eq]

/-- A text in lower case is its own lowercase form. -/
theorem lowerAfter_eq {cs : List Char} (h : ∀ c ∈ cs, IsLower c) :
    ∀ before, lowerAfter before cs = cs := by
  induction cs with
  | nil => exact fun _ => rfl
  | cons c rest ih =>
      intro before
      obtain ⟨hc, hrest⟩ := List.forall_mem_cons.mp h
      rw [lowerAfter, hc.lowerAt_eq, ih hrest, List.singleton_append]

end IsLower

theorem isLower_lowerChar {c : Char} (hc : c ≠ 'İ') : IsLower (lowerChar c) := by
  rw [lowerChar]
  cases hfind : lowercaseRuns.find? (·.covers c.toNat) with
  | none =>
      exact List.forall_mem_cons.mpr ⟨covers_dottedRun_of_ne hc, fun run hrun =>
        Bool.eq_false_iff.mpr (List.find?_eq_none.mp hfind run hrun)⟩
  | some run =>
      have hcov := List.find?_some hfind
      show IsLower (Char.ofNat (c.toNat + run.shift).toNat)
      -- A number that is no character counts as the null character, which is in lower case.
      by_cases hvalid : (c.toNat + run.shift).toNat.isValidChar
      · rw [Char.ofNat, dif_pos hvalid]
        intro other hother
        have hmem := List.mem_of_find?_eq_some hfind
        exact CaseRun.not_covers_of_avoids (avoids_of_mem hmem hother) hcov
      · rw [Char.ofNat, dif_neg hvalid]
        decide +kernel

theorem isLower_of_mem_lowerAt {before after : List Char} {c d : Char}
    (h : d ∈ lowerAt before c after) : IsLower d := by
  rw [lowerAt] at h
  split at h
  · rw [List.mem_singleton.mp h, lowerSigma]
    split <;> decide +kernel
  · split at h
    · rcases List.mem_cons.mp h with rfl | h
      · decide +kernel
      · rw [List.mem_singleton.mp h]
        decide +kernel
    · rename_i hdotted
      exact List.mem_singleton.mp h ▸ isLower_lowerChar hdotted

theorem isLower_of_mem_lowerAfter {d : Char} {cs : List Char} :
    ∀ {before}, d ∈ lowerAfter before cs → IsLower d := by
  induction cs with
  | nil => simp [lowerAfter]
  | cons c rest ih =>
      intro before h
      rw [lowerAfter] at h
      exact (List.mem_append.mp h).elim isLower_of_mem_lowerAt ih

/-- Lowering a text again changes nothing. -/
theorem lower_lower (s : String) : lower (lower s) = lower s := by
  rw [lower, lower, String.toList_ofList,
    IsLower.lowerAfter_eq fun c hc => isLower_of_mem_lowerAfter hc]

end AccessLog.Text
