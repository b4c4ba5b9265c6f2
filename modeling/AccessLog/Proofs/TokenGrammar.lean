import AccessLog.Proofs.Fields
import AccessLog.Proofs.NormalKey

/-!
# The grammar of tokens

A token is spelled with the name of a kind, and with a key in brackets where the kind needs
one (`Spelling`). A piece of a format is read as a token exactly when it is the text of such
a spelling, of which there is one at most (`Spelling.text_injective`); all else is literal
text (`Segment.parse_grammar`). Writing the key of a token in its normal form gives a token
of the same kind and key.
-/

namespace AccessLog

/-- The parts of a text that may be a token: the name of a kind, and what stands in brackets
after it. -/
structure Spelling where
  kind : TokenKind
  inner : Option String
  deriving Repr, DecidableEq

namespace Spelling

def text (x : Spelling) : String :=
  match x.inner with
  | none => ":" ++ x.kind.name
  | some s => ":" ++ x.kind.name ++ "[" ++ s ++ "]"

/-- The parts are those of a token: the brackets hold no others, and a kind that takes a key
has one that is not blank. -/
structure IsToken (x : Spelling) : Prop where
  flat : ∀ s, x.inner = some s → '[' ∉ s.toList ∧ ']' ∉ s.toList
  keyed : x.kind.takesKey = true → ∃ s, x.inner = some s ∧ Text.trim s.toList ≠ []

/-- The token that is spelled. -/
def ref (x : Spelling) : TokenRef where
  kind := x.kind
  text := x.text
  key :=
    if x.kind.takesKey then
      x.inner.map fun s => Text.lower (String.ofList (Text.trim s.toList))
    else none

theorem key_ref {x : Spelling} {s : String} (hkind : x.kind.takesKey = true)
    (hinner : x.inner = some s) : x.ref.key = some (normalKey s.toList) := by
  rw [ref, if_pos hkind, hinner]
  rfl

/-! ## The parts of a text -/

/-- What stands in the bracket, as it is read. -/
def inner? (x : Spelling) : Option (List Char) := x.inner.map String.toList

theorem toList_text (x : Spelling) :
    x.text.toList = ':' :: (x.kind.name.toList ++ TokenRef.bracketOf x.inner?) := by
  unfold text inner?
  cases x.inner <;> simp [TokenRef.bracketOf]

/-- A text can be taken apart in one way only. -/
theorem text_injective : Function.Injective text := by
  intro x y htext
  have hlist := congrArg String.toList htext
  rw [toList_text, toList_text] at hlist
  obtain ⟨hname, hinner⟩ := TokenRef.eq_of_append_bracketOf TokenKind.isNameChar_of_mem_name
    TokenKind.isNameChar_of_mem_name (List.tail_eq_of_cons_eq hlist)
  have hkind : x.kind = y.kind := TokenKind.name_injective (String.toList_inj.mp hname)
  have hinners : x.inner = y.inner :=
    Option.map_injective (fun _ _ => String.toList_inj.mp) hinner
  cases x
  cases y
  simp_all

/-- No brackets stand between those of a token. -/
theorem flat_iff {s : String} :
    ('[' ∉ s.toList ∧ ']' ∉ s.toList) ↔ s.toList.any isBracket = false := by
  simp [isBracket, List.any_eq_false, ← List.forall_mem_ne', forall_and]

/-- The key of a token in its normal form is a key of its own. -/
theorem isToken_normal (kind : TokenKind) {inner : List Char}
    (hflat : inner.any isBracket = false) (hkey : Text.trim inner ≠ []) :
    (⟨kind, some (normalKey inner)⟩ : Spelling).IsToken := by
  refine ⟨?flat, fun _ => ⟨_, rfl, ?keyed⟩⟩
  case flat =>
    rintro s ⟨⟩
    exact flat_iff.mpr (any_isBracket_normalKey hflat)
  case keyed =>
    rw [(isTrimmed_normalKey inner).trim_eq, ne_eq, String.toList_eq_nil_iff,
      normalKey_eq_empty_iff]
    exact hkey

end Spelling

namespace Spelling

/-- The parts of a spelled token are found in its text, and no others. -/
theorem parts?_text_iff {x : Spelling} :
    TokenRef.parts? x.text.toList = some (x.kind.name.toList, x.inner?) ↔
      ∀ s, x.inner = some s → '[' ∉ s.toList ∧ ']' ∉ s.toList := by
  rw [TokenRef.parts?_eq_some_iff, toList_text]
  constructor
  · rintro ⟨-, -, -, hflat⟩ s hs
    exact flat_iff.mpr (hflat s.toList (by rw [inner?, hs]; rfl))
  · intro hflat
    refine ⟨rfl, x.kind.two_le_length_name, TokenKind.isNameChar_of_mem_name, fun s hs => ?_⟩
    obtain ⟨t, ht, rfl⟩ := Option.map_eq_some_iff.mp hs
    exact flat_iff.mp (hflat t ht)

/-- A kind that takes a key has one just when the key is not empty in its normal form. -/
theorem keyed_iff {x : Spelling} :
    (∃ s, x.inner = some s ∧ Text.trim s.toList ≠ []) ↔ normalKey (x.inner?.getD []) ≠ "" := by
  rw [ne_eq, normalKey_eq_empty_iff, inner?]
  cases x.inner with
  | none => simp [Text.trim]
  | some s => simp

theorem ref_eq (x : Spelling) (h : x.kind.takesKey = true → normalKey (x.inner?.getD []) ≠ "") :
    x.ref = ⟨x.kind, x.text,
      if x.kind.takesKey then some (normalKey (x.inner?.getD [])) else none⟩ := by
  rw [ref]
  congr 1
  by_cases hkind : x.kind.takesKey = true
  · obtain ⟨s, hs, -⟩ := keyed_iff.mpr (h hkind)
    rw [if_pos hkind, if_pos hkind, inner?, hs]
    rfl
  · rw [if_neg hkind, if_neg hkind]

end Spelling

namespace TokenRef

/-- The text of a spelled token is read as that token. -/
theorem parse?_text {x : Spelling} (h : x.IsToken) : parse? x.text = some x.ref := by
  have hkey := fun hkind => Spelling.keyed_iff.mp (h.keyed hkind)
  exact parse?_eq_some_iff.mpr
    ⟨x.kind, x.inner?, Spelling.parts?_text_iff.mpr h.flat, hkey, x.ref_eq hkey⟩

/-- What is read as a token is the text of one. -/
theorem exists_spelling_of_parse? {piece : String} {ref : TokenRef}
    (h : parse? piece = some ref) : ∃ x : Spelling, x.IsToken ∧ x.text = piece ∧ x.ref = ref := by
  obtain ⟨kind, inner, hparts, hkey, rfl⟩ := parse?_eq_some_iff.mp h
  have hinner : (⟨kind, inner.map String.ofList⟩ : Spelling).inner? = inner := by
    cases inner <;> simp [Spelling.inner?]
  generalize hx : (⟨kind, inner.map String.ofList⟩ : Spelling) = x at hinner
  obtain ⟨rfl, rfl⟩ : kind = x.kind ∧ inner = x.inner? := ⟨by rw [← hx], hinner.symm⟩
  have htext : x.text = piece := by
    rw [← String.toList_inj, x.toList_text, (parts?_eq_some_iff.mp hparts).1]
  obtain rfl := htext
  exact ⟨x, ⟨Spelling.parts?_text_iff.mp hparts, fun hkind => Spelling.keyed_iff.mpr (hkey hkind)⟩,
    rfl, x.ref_eq hkey⟩

end TokenRef

namespace Segment

theorem parse_eq_token_iff {piece : String} {ref : TokenRef} :
    parse piece = .token ref ↔ TokenRef.parse? piece = some ref := by
  unfold parse
  cases TokenRef.parse? piece <;> simp

theorem parse_eq_literal_iff {piece : String} :
    parse piece = .literal piece ↔ TokenRef.parse? piece = none := by
  unfold parse
  cases TokenRef.parse? piece <;> simp

/-- A field token can be written with its normal key. -/
theorem parse_normalKey {kind : TokenKind} {inner : List Char} (hkind : kind.takesKey = true)
    (hflat : inner.any isBracket = false) (hkey : Text.trim inner ≠ []) :
    parse (":" ++ kind.name ++ "[" ++ normalKey inner ++ "]") =
      .token ⟨kind, ":" ++ kind.name ++ "[" ++ normalKey inner ++ "]",
        some (normalKey inner)⟩ := by
  have hparse := TokenRef.parse?_text (Spelling.isToken_normal kind hflat hkey)
  refine parse_eq_token_iff.mpr (hparse.trans ?_)
  have hnormal : (⟨kind, some (normalKey inner)⟩ : Spelling).ref.key = some (normalKey inner) := by
    rw [Spelling.key_ref hkind rfl, normalKey_normalKey]
  show some (TokenRef.mk kind _ (⟨kind, some (normalKey inner)⟩ : Spelling).ref.key) = _
  rw [hnormal]
  rfl

/-- **The grammar of tokens.** A piece is read as a token exactly when it is spelled as one,
and it is the token of that spelling: its kind, the piece as it is written, and for a field
the key in its normal form. The parts of a piece are the only ones that it has. Every piece
that is not spelled as a token is literal text. A field token can also be written with its
normal key, which gives a token of the same kind and key. -/
theorem parse_grammar (piece : String) :
    (∀ ref, parse piece = .token ref ↔
        ∃ x : Spelling, x.IsToken ∧ x.text = piece ∧ x.ref = ref) ∧
      (∀ x y : Spelling, x.text = piece → y.text = piece → x = y) ∧
      (parse piece = .literal piece ↔ ¬∃ x : Spelling, x.IsToken ∧ x.text = piece) ∧
      ∀ ref, parse piece = .token ref → ref.kind.takesKey = true →
        ∃ key, ref.key = some key ∧
          parse (":" ++ ref.kind.name ++ "[" ++ key ++ "]") =
            .token ⟨ref.kind, ":" ++ ref.kind.name ++ "[" ++ key ++ "]", some key⟩ := by
  have hspelled : ∀ ref, parse piece = .token ref ↔
      ∃ x : Spelling, x.IsToken ∧ x.text = piece ∧ x.ref = ref := by
    intro ref
    rw [parse_eq_token_iff]
    refine ⟨TokenRef.exists_spelling_of_parse?, ?_⟩
    rintro ⟨x, hx, rfl, rfl⟩
    exact TokenRef.parse?_text hx
  refine ⟨hspelled, ?unique, ?literal, ?normal⟩
  case unique => exact fun x y hx hy => Spelling.text_injective (hx.trans hy.symm)
  case literal =>
    rw [parse_eq_literal_iff, Option.eq_none_iff_forall_ne_some]
    constructor
    · rintro hnone ⟨x, hx, rfl⟩
      exact hnone _ (TokenRef.parse?_text hx)
    · intro hnone ref href
      obtain ⟨x, hx, htext, -⟩ := TokenRef.exists_spelling_of_parse? href
      exact hnone ⟨x, hx, htext⟩
  case normal =>
    intro ref href hkind
    obtain ⟨x, hx, -, rfl⟩ := (hspelled ref).mp href
    obtain ⟨s, hinner, hkey⟩ := hx.keyed hkind
    have hflat := Spelling.flat_iff.mp (hx.flat s hinner)
    exact ⟨normalKey s.toList, x.key_ref hkind hinner, parse_normalKey hkind hflat hkey⟩

/-- The key has an `I` with a dot, which is lowered to two characters, and a sigma that is
final only without the blanks around it. -/
example : parse ":req[ İΑΣ\u2003]" = .token ⟨.requestField, ":req[ İΑΣ\u2003]", some "i̇ας"⟩ := by
  decide +kernel

end Segment

end AccessLog
