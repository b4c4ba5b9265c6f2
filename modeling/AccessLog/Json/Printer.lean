import AccessLog.Value.Display

/-!
# Writing JSON

The most compact JSON text of a value: nothing between tokens, and no character
escaped that need not be. Numbers that are not finite, byte strings and objects
have no JSON text. Keys that are not texts are written as the text of their
value.
-/

namespace AccessLog.Json

def controlEscape (c : Char) : List Char :=
  match c with
  | '\x08' => ['\\', 'b']
  | '\x0c' => ['\\', 'f']
  | '\n' => ['\\', 'n']
  | '\r' => ['\\', 'r']
  | '\t' => ['\\', 't']
  | _ => '\\' :: 'u' :: Text.hexDigits 4 c.toNat

/-- One character between quotes. -/
def escape (c : Char) : List Char :=
  if c = '"' ∨ c = '\\' then ['\\', c]
  else if c.toNat < 0x20 then controlEscape c
  else [c]

/-- A text between quotes. -/
def printText (s : String) : String :=
  String.ofList ('"' :: (s.toList.flatMap escape ++ ['"']))

def printFloat (x : Number.Binary64) : Except Fault String :=
  match x with
  | .finite _ _ => .ok x.text
  | _ => .error .malformed

def keyText : Value → Except Fault String
  | .text s => .ok s
  | .float x => printFloat x
  | .bool b => .ok (if b then "true" else "false")
  | .null => .ok "null"
  | .int n => Value.intDisplay n
  | _ => .error .unsupported

mutual

def print : Value → Except Fault String
  | .null => .ok "null"
  | .bool b => .ok (if b then "true" else "false")
  | .int n => Value.intDisplay n
  | .float x => printFloat x
  | .text s => .ok (printText s)
  | .list vs => do return "[" ++ ",".intercalate (← printItems vs) ++ "]"
  | .tuple vs => do return "[" ++ ",".intercalate (← printItems vs) ++ "]"
  | .table es => do return "\x7b" ++ ",".intercalate (← printEntries es) ++ "\x7d"
  | _ => .error .unsupported

def printItems : List Value → Except Fault (List String)
  | [] => .ok []
  | v :: vs => do
    let head ← print v
    return head :: (← printItems vs)

def printEntries : List (Value × Value) → Except Fault (List String)
  | [] => .ok []
  | (k, v) :: es => do
    let key ← keyText k
    let head := printText key ++ ":" ++ (← print v)
    return head :: (← printEntries es)

end

end AccessLog.Json
