import AccessLog.Format.Template
import AccessLog.Line.Resolve

/-!
# Rendering a line

Every token is replaced in place by its value, in one pass: a value that looks
like a token is not looked at again. The tokens of a line are kept in a map
from the text of each token to its value.
-/

namespace AccessLog

/-- A rendered line and the values of its tokens. -/
structure Rendering where
  line : String
  tokens : Named String
  deriving Repr, DecidableEq

namespace Segment

def value (e : Exchange) : Segment → Value
  | literal s => .text s
  | token ref =>
    match ref.resolve e with
    | .null => .text ""
    | v => v

def remarks (e : Exchange) : Segment → List Record
  | literal _ => []
  | token ref => ref.remarks e

/-- A segment's part of the line; only texts can be joined. -/
def shown (e : Exchange) (s : Segment) : Except Fault String :=
  match s.value e with
  | .text t => .ok t
  | _ => .error .unsupported

/-- Enters a token's part of the line into the map. -/
def note (tokens : Named String) (s : Segment) (part : String) : Named String :=
  match s with
  | literal _ => tokens
  | token ref => tokens.set ref.text part

end Segment

namespace Rendering

/-- The line so far, followed by one segment. -/
def add (r : Rendering) (s : Segment) (part : String) : Rendering :=
  ⟨r.line ++ part, s.note r.tokens part⟩

def addAll (e : Exchange) : Rendering → List Segment → Except Fault Rendering
  | r, [] => .ok r
  | r, s :: rest => do addAll e (r.add s (← s.shown e)) rest

end Rendering

namespace Template

def render (t : Template) (e : Exchange) : Except Fault Rendering :=
  Rendering.addAll e ⟨"", []⟩ t.segments

def remarks (t : Template) (e : Exchange) : List Record := t.segments.flatMap (Segment.remarks e)

end Template

end AccessLog
