import AccessLog.Number.Decimal
import AccessLog.Text.Quoted
import AccessLog.Value.Basic

/-!
# Values as text

`display` is the text of a value on its own and `quoted` its text inside
another value; they differ for texts only. Integers beyond the digit limit have
no text.
-/

namespace AccessLog.Value

/-- The elements of a collection, separated by a comma and a blank. -/
def commaSeparated (parts : List String) : String := ", ".intercalate parts

def intDisplay (n : Int) : Except Fault String :=
  match Number.intText? n with
  | some s => .ok s
  | none => .error .malformed

mutual

/-- The text of a value inside another value. -/
def quoted : Value → Except Fault String
  | .null => .ok "None"
  | .bool b => .ok (if b then "True" else "False")
  | .int n => intDisplay n
  | .float x => .ok x.text
  | .text s => .ok (Text.quoted s)
  | .bytes bs => .ok (Text.quotedBytes bs)
  | .buffer bs => .ok (Text.quotedBuffer bs)
  | .list vs => do return "[" ++ commaSeparated (← quotedAll vs) ++ "]"
  | .tuple [v] => do return "(" ++ (← quoted v) ++ ",)"
  | .tuple vs => do return "(" ++ commaSeparated (← quotedAll vs) ++ ")"
  | .table es => do return "\x7b" ++ commaSeparated (← quotedEntries es) ++ "\x7d"
  | .object name => .ok ("<" ++ name ++ ">")

def quotedAll : List Value → Except Fault (List String)
  | [] => .ok []
  | v :: vs => do
    let head ← quoted v
    return head :: (← quotedAll vs)

def quotedEntries : List (Value × Value) → Except Fault (List String)
  | [] => .ok []
  | (k, v) :: es => do
    let key ← quoted k
    let head := key ++ ": " ++ (← quoted v)
    return head :: (← quotedEntries es)

end

/-- The text of a value on its own. -/
def display : Value → Except Fault String
  | .text s => .ok s
  | v => v.quoted

/-- A text, whether written as characters or as bytes; any other value by its
display. -/
def decoded : Value → Except Fault String
  | .bytes bs => .ok (Text.latin1 bs)
  | .buffer bs => .ok (Text.latin1 bs)
  | v => v.display

/-- The name of the value's kind, for messages. -/
def kindName : Value → String
  | .null => "NoneType"
  | .bool _ => "bool"
  | .int _ => "int"
  | .float _ => "float"
  | .text _ => "str"
  | .bytes _ => "bytes"
  | .buffer _ => "bytearray"
  | .list _ => "list"
  | .tuple _ => "tuple"
  | .table _ => "dict"
  | .object _ => "Opaque"

end AccessLog.Value
