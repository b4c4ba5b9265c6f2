import AccessLog.Text.CodeRange

/-!
# Blank characters

The characters that separate the pieces of a format string and are trimmed
from a header name: the Unicode white space together with the four information
separators U+001C to U+001F.
-/

namespace AccessLog.Text

def blankRanges : List CodeRange := [
  ⟨0x0009, 0x000D⟩, ⟨0x001C, 0x0020⟩, ⟨0x0085, 0x0085⟩, ⟨0x00A0, 0x00A0⟩, ⟨0x1680, 0x1680⟩,
  ⟨0x2000, 0x200A⟩, ⟨0x2028, 0x2029⟩, ⟨0x202F, 0x202F⟩, ⟨0x205F, 0x205F⟩, ⟨0x3000, 0x3000⟩]

def isBlank (c : Char) : Bool := inRanges blankRanges c

def trim (cs : List Char) : List Char :=
  ((cs.dropWhile isBlank).reverse.dropWhile isBlank).reverse

/-- Is the text made of blanks, and of one at least? -/
def isSpace (cs : List Char) : Bool := !cs.isEmpty && cs.all isBlank

end AccessLog.Text
