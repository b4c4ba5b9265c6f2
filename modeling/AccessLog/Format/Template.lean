import AccessLog.Format.Token

/-!
# Templates

A format is cut around its runs of blank characters, and the blanks are kept as pieces of
their own. A piece that is not blank is a token or stands for itself; a blank piece always
stands for itself, so a line keeps the spacing of its format.
-/

namespace AccessLog

inductive Segment where
  | literal (text : String)
  | token (ref : TokenRef)
  deriving Repr, DecidableEq

namespace Segment

def text : Segment → String
  | literal s => s
  | token ref => ref.text

def token? : Segment → Option TokenRef
  | literal _ => none
  | token ref => some ref

/-- Reads a piece: what is not a token is literal text. -/
def parse (piece : String) : Segment :=
  match TokenRef.parse? piece with
  | some ref => token ref
  | none => literal piece

/-- What a piece of a format stands for. -/
def ofPiece (piece : List Char) : Segment :=
  if Text.isSpace piece then literal (String.ofList piece) else parse (String.ofList piece)

end Segment

structure Template where
  source : String
  segments : List Segment
  deriving Repr, DecidableEq

namespace Template

/-- Cuts a text around its runs of blanks, and keeps these in between. What is passed in is
the piece that has been read so far, from its end, and whether it is one of blanks. -/
def splitFrom (blank : Bool) (piece : List Char) : List Char → List (List Char)
  | [] => if blank then [piece.reverse, []] else [piece.reverse]
  | c :: rest =>
    if Text.isBlank c = blank then splitFrom blank (c :: piece) rest
    else piece.reverse :: splitFrom (Text.isBlank c) [c] rest

/-- The pieces of a format: a text and a run of blanks in turn, with a text at both ends, which
is empty where the format begins or ends with a blank. -/
def split (format : String) : List (List Char) := splitFrom false [] format.toList

def parse (format : String) : Template where
  source := format
  segments := ((split format).filter fun piece => !piece.isEmpty).map Segment.ofPiece

def tokens (t : Template) : List TokenRef := t.segments.filterMap Segment.token?

end Template

end AccessLog
