import AccessLog.Named
import AccessLog.Settings.Failure
import AccessLog.Text.Lowercase
import AccessLog.Value.Table

/-!
# Looking settings up

How the environment and the settings file are searched. The values given
directly may say how, under names of their own that begin with an underscore:
whether the file is read, whether empty texts count, whether names have to agree
in case, what stands before every name, which text stands for a null, and what
stands between the name of a list and the names of its parts. A null for one of
these leaves it as it is, except for the file, which is not read then.
-/

namespace AccessLog

/-- How settings are looked up by name in the environment and in the settings
file. -/
structure Lookup where
  readsFile : Bool
  skipsEmpty : Bool
  isCaseSensitive : Bool
  leader : String
  nullText : Option String
  divider : String
  deriving Repr, DecidableEq

namespace Lookup

/-- The lookup when nothing is said about it. -/
def standard : Lookup where
  readsFile := true
  skipsEmpty := false
  isCaseSensitive := false
  leader := ""
  nullText := none
  divider := ""

/-! ## What is said about the lookup -/

/-- Is this a path of the settings file, which lies in the working directory
under the name `.env`? -/
def isFilePath (path : String) : Bool :=
  let steps := (path.splitOn "/").filter fun step => step != "" && step != "."
  steps == [".env"] && path.toList.head? != some '/'

def pathOf : Value → Except Fault String
  | .text path => .ok path
  | _ => .error .unsupported

/-- Is the settings file read? It is when it is among the paths that are
given, of which there may be one, several or none. -/
def readsFileOf : Option Value → Except Fault Bool
  | none => .ok true
  | some .null => .ok false
  | some (.text path) => .ok (isFilePath path)
  | some paths => do return (← (← paths.elements).mapM pathOf).any isFilePath

/-- What stands before every name. It has to be a text; a value without a length
is refused as such, and one with a length when a name is to be formed. -/
def leaderOf : Value → Except SettingsFailure String
  | .null => .ok ""
  | .text s => .ok s
  | .bool _ => .error (.fault .unsupported)
  | .int _ => .error (.fault .unsupported)
  | .float _ => .error (.fault .unsupported)
  | .object _ => .error (.fault .unsupported)
  | _ => .error .unreadable

/-- The text that a value is, if it is one. -/
def textOf? : Value → Option String
  | .text s => some s
  | _ => none

/-- The lookup that the given values ask for. -/
def ofGiven (given : Table) : Except SettingsFailure Lookup := do
  let leader := leaderOf (given.get "_env_prefix")
  if let .error (.fault cause) := leader then throw (.fault cause)
  let readsFile ← (readsFileOf (given.get? "_env_file")).mapError .fault
  return {
    readsFile
    skipsEmpty := (given.get "_env_ignore_empty").isTruthy
    isCaseSensitive := (given.get "_case_sensitive").isTruthy
    leader := ← leader
    nullText := textOf? (given.get "_env_parse_none_str")
    divider := (textOf? (given.get "_env_nested_delimiter")).getD "" }

/-! ## Entries -/

/-- The form of a name in which names are compared. -/
def normalize (l : Lookup) (name : String) : String :=
  if l.isCaseSensitive then name else Text.lower name

/-- The entries that count, under normalized names; later ones override earlier
ones. -/
def entries (l : Lookup) (raw : Named (Option String)) : Named (Option String) :=
  let counted := raw.filter fun e => !(l.skipsEmpty && e.2 == some "")
  Named.ofEntries (counted.map fun e => (l.normalize e.1, e.2))

def nameOf (l : Lookup) (name : SettingName) : String := l.normalize (l.leader ++ name.text)

/-- The value of a text: a null, if the text stands for one. -/
def valueOf (l : Lookup) (s : String) : Value := if l.nullText == some s then .null else .text s

/-- The value of a setting; there is none when its name is bound to nothing. -/
def find (l : Lookup) (raw : Named (Option String)) (name : SettingName) : Option Value :=
  ((l.entries raw).get? (l.nameOf name)).join.map l.valueOf

/-- Is a part of a list set, under the list's name, the divider and a name of its
own? -/
def hasPart (l : Lookup) (raw : Named (Option String)) (name : SettingName) : Bool :=
  let start := (l.nameOf name ++ l.divider).toList
  l.divider != "" && (l.entries raw).any fun e => start.isPrefixOf e.1.toList

/-- A list that is written as JSON. The JSON null counts as not set. A list of
which only parts are set makes an object. -/
def findList (l : Lookup) (raw : Named (Option String)) (name : SettingName) :
    Except SettingsFailure (Option Json) :=
  match l.find raw name with
  | some (.text s) =>
    match Json.read s with
    | .ok .null => .ok none
    | .ok j => .ok (some j)
    | .error .malformed => .error .unreadable
    | .error .tooDeep => .error .tooDeep
  | some _ => .ok (some .null)
  | none => .ok (if l.hasPart raw name then some .other else none)

end Lookup

end AccessLog
