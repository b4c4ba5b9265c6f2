import AccessLog.Proofs.Rendering
import Mathlib.Data.List.SplitBy

/-!
# The pieces of a format

A text has one segmentation into runs of blank and of other characters that are as long as
they can be (`IsSegmentation`), and reading a format finds it (`isSegmentation_iff`): the
pieces of a text are determined by what they have to be, however they are looked for. The
blank pieces stand for themselves and each of the others is read on its own
(`Template.parse_segmentation`).
-/

namespace AccessLog

namespace Text

/-! ## Segmentations -/

/-- There is nothing but blanks in the text. -/
def AllBlank (s : String) : Prop := ∀ c ∈ s.toList, isBlank c = true

/-- There is no blank in the text. -/
def NoneBlank (s : String) : Prop := ∀ c ∈ s.toList, isBlank c = false

/-- The pieces make up the text, and they are its longest runs of blank and of other
characters. -/
structure IsSegmentation (text : String) (pieces : List String) : Prop where
  joined : String.join pieces = text
  nonempty : ∀ p ∈ pieces, p ≠ ""
  uniform : ∀ p ∈ pieces, AllBlank p ∨ NoneBlank p
  alternating : pieces.IsChain fun p q => AllBlank p ∧ NoneBlank q ∨ NoneBlank p ∧ AllBlank q

/-- Neighbours are of one kind in a text of one kind, and only there. -/
theorem isChain_isBlank_iff {s : String} :
    s.toList.IsChain (fun a b => isBlank a == isBlank b) ↔ AllBlank s ∨ NoneBlank s := by
  rw [AllBlank, NoneBlank]
  induction s.toList with
  | nil => simp
  | cons a rest ih =>
      cases rest with
      | nil => cases ha : isBlank a <;> simp [ha]
      | cons b rest =>
          rw [List.isChain_cons_cons, ih, List.forall_mem_cons, List.forall_mem_cons (a := a)]
          cases ha : isBlank a <;> cases hb : isBlank b <;> simp [ha, hb]

/-- Between two pieces of one kind each, the last character and the first are of different
kinds when the pieces are. -/
theorem isBlank_getLast_ne_head_iff {p q : String} (hp : p ≠ "") (hq : q ≠ "")
    (hpkind : AllBlank p ∨ NoneBlank p) (hqkind : AllBlank q ∨ NoneBlank q) :
    (∃ hp hq, (isBlank (p.toList.getLast hp) == isBlank (q.toList.head hq)) = false) ↔
      AllBlank p ∧ NoneBlank q ∨ NoneBlank p ∧ AllBlank q := by
  have hp' : p.toList ≠ [] := String.toList_eq_nil_iff.not.mpr hp
  have hq' : q.toList ≠ [] := String.toList_eq_nil_iff.not.mpr hq
  have hlast := List.getLast_mem hp'
  have hhead := List.head_mem hq'
  constructor
  · rintro ⟨_, _, hne⟩
    rcases hpkind with hpall | hpnone <;> rcases hqkind with hqall | hqnone
    · simp [hpall _ hlast, hqall _ hhead] at hne
    · exact Or.inl ⟨hpall, hqnone⟩
    · exact Or.inr ⟨hpnone, hqall⟩
    · simp [hpnone _ hlast, hqnone _ hhead] at hne
  · rintro (⟨hpall, hqnone⟩ | ⟨hpnone, hqall⟩)
    · exact ⟨hp', hq', by simp [hpall _ hlast, hqnone _ hhead]⟩
    · exact ⟨hp', hq', by simp [hpnone _ hlast, hqall _ hhead]⟩

end Text

/-! ## Pieces as segments -/

namespace Segment

/-- A piece is kept as it is written, whatever it is read as. -/
theorem text_parse (piece : String) : (parse piece).text = piece := by
  unfold parse
  cases hparse : TokenRef.parse? piece with
  | none => rfl
  | some ref => exact TokenRef.text_of_parse? hparse

theorem map_token_filterMap_token? (segments : List Segment) :
    (segments.filterMap token?).map token = segments.filter fun s => s.token?.isSome := by
  induction segments with
  | nil => rfl
  | cons s rest ih =>
      cases s with
      | literal text => exact ih
      | token ref => exact congrArg (token ref :: ·) ih

end Segment

namespace Template

open Text

/-- A format is cut into the one segmentation that it has. -/
theorem isSegmentation_iff {format : String} {pieces : List String} :
    IsSegmentation format pieces ↔ runs format = pieces.map String.toList := by
  have hjoined : format.toList = (pieces.map String.toList).flatten ↔
      String.join pieces = format := by
    rw [← List.flatMap_def, ← String.toList_join, String.toList_inj, eq_comm]
  have hnonempty : [] ∉ pieces.map String.toList ↔ ∀ p ∈ pieces, p ≠ "" := by
    simp [List.mem_map, String.toList_eq_nil_iff, ← List.forall_mem_ne']
  have hends (hne : ∀ p ∈ pieces, p ≠ "") (hkind : ∀ p ∈ pieces, AllBlank p ∨ NoneBlank p) :
      pieces.IsChain (fun p q =>
          ∃ hp hq, (isBlank (p.toList.getLast hp) == isBlank (q.toList.head hq)) = false) ↔
        pieces.IsChain fun p q => AllBlank p ∧ NoneBlank q ∨ NoneBlank p ∧ AllBlank q :=
    List.IsChain.iff_of_mem_imp fun p q hp hq =>
      isBlank_getLast_ne_head_iff (hne p hp) (hne q hq) (hkind p hp) (hkind q hq)
  rw [runs, List.splitBy_eq_iff, hjoined, hnonempty, List.forall_mem_map, List.isChain_map]
  simp only [isChain_isBlank_iff]
  constructor
  · intro h
    exact ⟨h.joined, h.nonempty, h.uniform, (hends h.nonempty h.uniform).mpr h.alternating⟩
  · rintro ⟨hjoined, hnonempty, huniform, hchain⟩
    exact ⟨hjoined, hnonempty, huniform, (hends hnonempty huniform).mp hchain⟩

theorem map_text_segments (format : String) :
    (parse format).segments.map Segment.text = (runs format).map String.ofList := by
  simp only [segments_parse, List.map_map, Function.comp_def, Segment.text_parse]

theorem eq_parse_of_mem_segments {format : String} {s : Segment}
    (h : s ∈ (parse format).segments) : s = Segment.parse s.text := by
  obtain ⟨run, -, rfl⟩ := List.mem_map.mp (segments_parse format ▸ h)
  rw [Segment.text_parse]

/-- **The pieces of a format.** The segments of a format have the texts of its longest blank
and non-blank runs, in order and without loss, and no other pieces are such runs. A segment
of blanks stands for itself and every other one is what its text reads as by itself. The
tokens of the format are those of its segments that are tokens, in order. -/
theorem parse_segmentation (format : String) :
    IsSegmentation format ((parse format).segments.map Segment.text) ∧
      (∀ pieces, IsSegmentation format pieces →
        pieces = (parse format).segments.map Segment.text) ∧
      (∀ s ∈ (parse format).segments,
        (AllBlank s.text → s = .literal s.text) ∧ (¬AllBlank s.text → s = Segment.parse s.text)) ∧
      (parse format).tokens.map .token =
        (parse format).segments.filter fun s => s.token?.isSome := by
  refine ⟨?segmentation, ?unique, ?segments, ?tokens⟩
  case segmentation =>
    rw [isSegmentation_iff, map_text_segments, List.map_map]
    simp [Function.comp_def]
  case unique =>
    intro pieces h
    rw [map_text_segments, isSegmentation_iff.mp h, List.map_map]
    simp [Function.comp_def]
  case segments =>
    intro s hs
    have hparse := eq_parse_of_mem_segments hs
    exact ⟨fun hblank => hparse.trans (Segment.parse_of_forall_isBlank hblank), fun _ => hparse⟩
  case tokens => exact Segment.map_token_filterMap_token? _

/-- Blanks at both ends, a run of two of them, and one that ASCII does not know. -/
example : (parse " :url\u3000<- \t:req[a b]").segments =
    [.literal " ", .token ⟨.url, ":url", none⟩, .literal "\u3000", .literal "<-",
      .literal " \t", .literal ":req[a", .literal " ", .literal "b]"] := by
  decide +kernel

end Template

end AccessLog
