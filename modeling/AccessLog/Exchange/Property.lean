import AccessLog.Named
import AccessLog.Text.Lowercase
import AccessLog.Value.Display
import AccessLog.Value.Table

/-!
# Scope properties

Entries of a request scope can be shown in a line under their lowercased name.
Texts, byte strings and numbers are shown; lists are shown by their elements,
separated by commas, when every element can be shown. The headers have tokens
of their own, and `state`, `app` and `extensions` belong to the application and
stay out of the log.
-/

namespace AccessLog

namespace Property

/-- The comma-separated parts, when all of them are there. -/
def joinAll (parts : List (Option String)) : Option String :=
  if parts.all Option.isSome then some (",".intercalate (parts.filterMap id)) else none

mutual

/-- The text that shows a value, `none` when it is not shown. -/
def render : Value → Except Fault (Option String)
  | .bytes bs => .ok (some (Text.latin1 bs))
  | .text s => .ok (some s)
  | .int n => (Value.intDisplay n).map some
  | .float x => .ok (some x.text)
  | .list vs => (renderAll vs).map joinAll
  | .tuple vs => (renderAll vs).map joinAll
  | _ => .ok none

def renderAll : List Value → Except Fault (List (Option String))
  | [] => .ok []
  | v :: vs => do
    let head ← render v
    return head :: (← renderAll vs)

end

/-- The scope entries that are never shown as properties. -/
def hidden : List String := ["headers", "state", "app", "extensions"]

def isHidden : Value → Bool
  | .text name => hidden.contains name
  | _ => false

/-- Adds one scope entry to the properties. A byte string may be a key but no
text finds it; on other keys case means nothing. -/
def addEntry (properties : Named String) (key v : Value) : Except Fault (Named String) := do
  if isHidden key then return properties
  match ← render v with
  | none => return properties
  | some shown =>
    match key with
    | .text name => return properties.set (Text.lower name) shown
    | .bytes _ => return properties
    | _ => throw .noOperation

/-- Adds scope entries, a later one overriding an earlier one of the same
lowercased name. -/
def addAll : Named String → Table → Except Fault (Named String)
  | properties, [] => .ok properties
  | properties, (key, v) :: rest => do addAll (← addEntry properties key v) rest

def ofScope (scope : Table) : Except Fault (Named String) := addAll [] scope

end Property

end AccessLog
