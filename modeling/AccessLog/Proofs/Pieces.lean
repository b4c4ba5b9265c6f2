import AccessLog.Format.Template
import Mathlib.Data.List.SplitBy

/-!
# How a format is read

A piece of a format is matched as a whole: it is a token when a name and perhaps a bracket are
all that it is made of (`TokenRef.parts?_eq_some_iff`), and these parts say which token it is
(`TokenRef.parse?_eq_some_iff`).

A format is cut around its runs of blanks, and pieces without characters are left out. That
leaves its longest runs of blank and of other characters (`Template.filter_split_eq_runs`). No
token begins with a blank, so that blank pieces are not read makes no difference: a format is
its runs, each of them read on its own (`Template.segments_parse`).
-/

namespace AccessLog

/-! ## The parts of a token -/

namespace TokenKind

/-- The names of the kinds can be read as names. -/
theorem isNameChar_of_mem_name {kind : TokenKind} :
    ∀ c ∈ kind.name.toList, isNameChar c = true := by
  refine List.all_eq_true.mp ?_
  cases kind <;> decide

theorem two_le_length_name (kind : TokenKind) : 2 ≤ kind.name.toList.length := by
  cases kind <;> decide

end TokenKind

namespace TokenRef

/-- What follows the name of a token, for what stands in the bracket. -/
def bracketOf : Option (List Char) → List Char
  | none => []
  | some inner => '[' :: (inner ++ [']'])

theorem takeWhile_append_bracketOf {name : List Char} (h : ∀ c ∈ name, isNameChar c = true)
    (inner : Option (List Char)) : (name ++ bracketOf inner).takeWhile isNameChar = name := by
  rw [List.takeWhile_append_of_pos h]
  cases inner with
  | none => exact List.append_nil name
  | some inner => rw [bracketOf, List.takeWhile_cons_of_neg (by decide), List.append_nil]

theorem dropWhile_append_bracketOf {name : List Char} (h : ∀ c ∈ name, isNameChar c = true)
    (inner : Option (List Char)) :
    (name ++ bracketOf inner).dropWhile isNameChar = bracketOf inner := by
  rw [List.dropWhile_append_of_pos h]
  cases inner with
  | none => rfl
  | some inner => rw [bracketOf, List.dropWhile_cons_of_neg (by decide)]

/-- A text can be taken apart in one way only: the name ends where the bracket begins. -/
theorem eq_of_append_bracketOf {name name' : List Char} {inner inner' : Option (List Char)}
    (hname : ∀ c ∈ name, isNameChar c = true) (hname' : ∀ c ∈ name', isNameChar c = true)
    (h : name ++ bracketOf inner = name' ++ bracketOf inner') : name = name' ∧ inner = inner' := by
  obtain rfl : name = name' := by
    rw [← takeWhile_append_bracketOf hname inner, h, takeWhile_append_bracketOf hname']
  have hbracket := List.append_cancel_left h
  cases inner <;> cases inner' <;> simp_all [bracketOf]

/-- A piece has parts when it is made of them: there is nothing else in it, the name is long
enough, and the bracket holds no other. -/
theorem parts?_eq_some_iff {cs name : List Char} {inner : Option (List Char)} :
    parts? cs = some (name, inner) ↔
      cs = ':' :: (name ++ bracketOf inner) ∧ 2 ≤ name.length ∧
        (∀ c ∈ name, isNameChar c = true) ∧ ∀ s, inner = some s → s.any isBracket = false := by
  constructor
  · intro h
    unfold parts? at h
    split at h
    · rename_i body
      have hall : ∀ c ∈ body.takeWhile isNameChar, isNameChar c = true :=
        fun c hc => List.all_eq_true.mp List.all_takeWhile c hc
      have hbody := (List.takeWhile_append_dropWhile (p := isNameChar) (l := body)).symm
      dsimp only at h
      split at h
      · cases h
      · rename_i hlength
        split at h
        · rename_i hrest
          cases h
          rw [hrest] at hbody
          exact ⟨congrArg _ hbody, by omega, hall, nofun⟩
        · obtain ⟨s, hs, heq⟩ := Option.map_eq_some_iff.mp h
          cases heq
          obtain ⟨hrest, hflat⟩ := bracketed?_eq_some_iff.mp hs
          rw [hrest] at hbody
          refine ⟨congrArg _ hbody, by omega, hall, ?_⟩
          rintro _ ⟨⟩
          exact hflat
    · cases h
  · rintro ⟨rfl, hlength, hall, hflat⟩
    rw [parts?, takeWhile_append_bracketOf hall, dropWhile_append_bracketOf hall]
    simp only [if_neg (Nat.not_lt.mpr hlength)]
    cases inner with
    | none => rfl
    | some s =>
        have hs := bracketed?_eq_some_iff.mpr ⟨rfl, hflat s rfl⟩
        simp only [bracketOf, hs, Option.map_some]

/-- A piece is read as a token by its parts: the name is one of a kind, and the key that the
kind takes is not blank. -/
theorem parse?_eq_some_iff {piece : String} {ref : TokenRef} :
    parse? piece = some ref ↔ ∃ kind inner,
      parts? piece.toList = some (kind.name.toList, inner) ∧
      (kind.takesKey = true → normalKey (inner.getD []) ≠ "") ∧
      ref = ⟨kind, piece, if kind.takesKey then some (normalKey (inner.getD [])) else none⟩ := by
  constructor
  · intro h
    obtain ⟨⟨name, inner⟩, hparts, h⟩ := Option.bind_eq_some_iff.mp h
    obtain ⟨kind, hkind, h⟩ := Option.bind_eq_some_iff.mp h
    have hname : name = kind.name.toList := by
      rw [← TokenKind.ofName?_eq_some_iff.mp hkind, String.toList_ofList]
    refine ⟨kind, inner, hname ▸ hparts, ?_⟩
    dsimp only at h
    cases htakes : kind.takesKey with
    | false =>
        rw [htakes] at h
        cases h
        exact ⟨nofun, rfl⟩
    | true =>
        rw [htakes] at h
        simp only [Bool.not_true, Bool.false_eq_true, if_false] at h
        split at h
        · cases h
        · rename_i hkey
          cases h
          exact ⟨fun _ => hkey, rfl⟩
  · rintro ⟨kind, inner, hparts, hkey, rfl⟩
    simp only [parse?, hparts, String.ofList_toList, TokenKind.ofName?_name, Option.bind_eq_bind,
      Option.bind_some]
    cases htakes : kind.takesKey with
    | false => rfl
    | true => simp [hkey htakes]

/-- A token keeps the text that it was read from. -/
theorem text_of_parse? {piece : String} {ref : TokenRef} (h : parse? piece = some ref) :
    ref.text = piece := by
  obtain ⟨kind, inner, -, -, rfl⟩ := parse?_eq_some_iff.mp h
  rfl

end TokenRef

/-! ## The pieces of a format -/

namespace Segment

/-- No token starts with a blank, so a blank piece stands for itself. -/
theorem parse_of_forall_isBlank {piece : String}
    (hblank : ∀ c ∈ piece.toList, Text.isBlank c = true) : parse piece = .literal piece := by
  unfold parse
  cases hparse : TokenRef.parse? piece with
  | none => rfl
  | some ref =>
      obtain ⟨kind, inner, hparts, -⟩ := TokenRef.parse?_eq_some_iff.mp hparse
      have hpiece := (TokenRef.parts?_eq_some_iff.mp hparts).1
      have hcolon : Text.isBlank ':' = true := hblank ':' (by rw [hpiece]; simp)
      exact absurd hcolon (by decide)

theorem ofPiece_eq_parse (piece : List Char) : ofPiece piece = parse (String.ofList piece) := by
  unfold ofPiece
  split
  · rename_i hspace
    have hall := (Bool.and_eq_true _ _ ▸ hspace : _ ∧ piece.all Text.isBlank = true).2
    refine (parse_of_forall_isBlank fun c hc => ?_).symm
    rw [String.toList_ofList] at hc
    exact List.all_eq_true.mp hall c hc
  · rfl

end Segment

namespace Template

/-- The longest runs of blank and of other characters. -/
def runs (format : String) : List (List Char) :=
  format.toList.splitBy fun a b => Text.isBlank a == Text.isBlank b

/-- What is cut after a character `a` of a piece is what runs are made of. -/
theorem filter_splitFrom (cs : List Char) : ∀ (a : Char) (piece : List Char)
    (before : List (List Char)),
    before.reverse ++ (splitFrom (Text.isBlank a) (a :: piece) cs).filter (fun p => !p.isEmpty) =
      List.splitBy.loop (fun a b => Text.isBlank a == Text.isBlank b) cs a piece before := by
  induction cs with
  | nil =>
      intro a piece before
      rw [splitFrom, List.splitBy.loop]
      cases Text.isBlank a <;> simp
  | cons c rest ih =>
      intro a piece before
      rw [splitFrom, List.splitBy.loop]
      by_cases hsame : Text.isBlank c = Text.isBlank a
      · rw [if_pos hsame, ← hsame, beq_self_eq_true, ih c (a :: piece) before]
      · have hdiffers : (Text.isBlank a == Text.isBlank c) = false :=
          beq_eq_false_iff_ne.mpr (Ne.symm hsame)
        rw [if_neg hsame, hdiffers, ← ih c [] ((a :: piece).reverse :: before)]
        simp

/-- Of the pieces of a format, those that have characters are its longest runs. -/
theorem filter_split_eq_runs (format : String) :
    (split format).filter (fun piece => !piece.isEmpty) = runs format := by
  rw [split, runs]
  cases format.toList with
  | nil => rfl
  | cons c rest =>
      rw [List.splitBy, ← filter_splitFrom, splitFrom]
      cases hblank : Text.isBlank c with
      | false => rfl
      | true => simp

theorem segments_parse (format : String) :
    (parse format).segments = (runs format).map fun run => Segment.parse (String.ofList run) := by
  rw [parse, filter_split_eq_runs]
  exact List.map_congr_left fun run _ => Segment.ofPiece_eq_parse run

end Template

end AccessLog
