import AccessLog.Text.CasedTable
import AccessLog.Text.LowercaseTable

/-!
# Full Unicode lowercasing

`lower` maps each character by `lowercaseRuns`, except for two: U+0130 becomes
an `i` and a combining dot, and a capital sigma becomes the final form when it
ends a word. "Ends a word" means that the nearest character before it that is
not case-ignorable is cased, and the nearest one after it is not.
-/

namespace AccessLog.Text

/-- The lowercase form of a character outside any context. -/
def lowerChar (c : Char) : Char :=
  match lowercaseRuns.find? (·.covers c.toNat) with
  | some run => Char.ofNat (c.toNat + run.shift).toNat
  | none => c

/-- Does a cased character come first, not counting case-ignorable ones? -/
def startsCased (cs : List Char) : Bool :=
  match cs.dropWhile (inRanges caseIgnorableRanges) with
  | c :: _ => inRanges casedRanges c
  | [] => false

/-- The lowercase form of a capital sigma between the text before it, nearest
character first, and the text after it. -/
def lowerSigma (before after : List Char) : Char :=
  if startsCased before && !startsCased after then 'ς' else 'σ'

/-- The lowercase form of one character in its context. -/
def lowerAt (before : List Char) (c : Char) (after : List Char) : List Char :=
  if c = 'Σ' then [lowerSigma before after]
  else if c = 'İ' then ['i', '\u0307']
  else [lowerChar c]

/-- Lowercases a text that follows the characters `before`, nearest first. -/
def lowerAfter : List Char → List Char → List Char
  | _, [] => []
  | before, c :: rest => lowerAt before c rest ++ lowerAfter (c :: before) rest

def lower (s : String) : String := String.ofList (lowerAfter [] s.toList)

end AccessLog.Text
