import AccessLog.Named
import AccessLog.Text.Lowercase
import AccessLog.Value.Display

/-!
# Headers

Headers arrive as a collection of pairs, whose names and values are texts or
bytes. They are grouped by lowercased name: a group keeps its values in the
order in which they arrived, and the groups stand in the order of their first
pair. Anything with exactly two elements is a pair.
-/

namespace AccessLog

/-- Values grouped by lowercased name. -/
abbrev Headers := Named (List Value)

namespace Headers

/-- Puts a value at the end of the group of its name. -/
def add (headers : Headers) (name : String) (v : Value) : Headers :=
  headers.update (fun group => group.getD [] ++ [v]) name

/-- Adding a value changes the group of its name only, and puts it last there. -/
theorem get?_add (headers : Headers) (name other : String) (v : Value) :
    (headers.add name v).get? other =
      if other = name then some ((headers.get? name).getD [] ++ [v]) else headers.get? other :=
  Named.get?_update _ _ _ _

/-- Reads a pair: the name in lower case, and the value as a text. -/
def readPair (pair : Value) : Except Fault (String × String) := do
  match ← pair.elements with
  | [name, v] =>
    let name ← name.decoded
    return (Text.lower name, ← v.decoded)
  | _ => throw .malformed

def addAll : Headers → List Value → Except Fault Headers
  | headers, [] => .ok headers
  | headers, pair :: rest => do
    let (name, v) ← readPair pair
    addAll (headers.add name (.text v)) rest

/-- Groups a collection of pairs. A value that is not truthy stands for no
headers at all. -/
def decode (raw : Value) : Except Fault Headers :=
  if raw.isTruthy then do addAll [] (← raw.elements) else .ok []

/-- The texts of values that are all texts. -/
def allTexts : List Value → Except Fault (List String)
  | [] => .ok []
  | .text s :: rest => do return s :: (← allTexts rest)
  | _ :: _ => .error .unsupported

/-- The values of one name, separated by commas; `none` when there are none.
The name is sought in lower case. -/
def field? (headers : Headers) (name : String) : Except Fault (Option String) :=
  match headers.get? (Text.lower name) with
  | none => .ok none
  | some [] => .ok none
  | some values => do return some (",".intercalate (← allTexts values))

end Headers

end AccessLog
