import AccessLog.Settings.Dotenv
import AccessLog.Settings.Lookup

/-!
# Loading settings

Each setting is taken from the first source that has it: the values given
directly, the environment, the settings file. Among the given values names are
compared without regard to case, and the first one counts. How names are
compared in the environment and in the file is a matter of the lookup; of
several that agree, the last one counts. The list of paths is written as JSON
there; a text that is not JSON is refused even when another source comes first,
and a JSON null counts as not set.
-/

namespace AccessLog

structure Sources where
  given : Table
  environment : Named String
  file : Option String

namespace Sources

/-- Is the entry one for the setting, in any case? -/
def isFor (name : SettingName) (entry : Value × Value) : Bool :=
  (Lookup.textOf? entry.1).any fun s => Text.lower s == Text.lower name.text

/-- The value given for a setting: the first one under its name. -/
def givenFor (s : Sources) (name : SettingName) : Option Value :=
  (List.find? (isFor name) s.given).map Prod.snd

def inEnvironment (s : Sources) : Named (Option String) :=
  s.environment.map fun e => (e.1, some e.2)

/-- The entries of the settings file, if it is read. -/
def inFile (s : Sources) (l : Lookup) : Named (Option String) :=
  if l.readsFile then (s.file.map (Dotenv.read s.environment)).getD [] else []

/-- The value of a setting that is not a list. -/
def valueOf (s : Sources) (l : Lookup) (name : SettingName) : Option Value :=
  (s.givenFor name).or ((l.find s.inEnvironment name).or (l.find (s.inFile l) name))

/-- Can the entry stand in an environment? Its name ends at an equals sign, and
its text at a NUL. -/
def isStorable (entry : String × String) : Bool :=
  !entry.1.any (fun c => c == '=' || c == '\x00') && !entry.2.any (· == '\x00')

/-- How the environment and the file are searched. The environment has to be one
that there can be, and every given value needs a name that is a text. -/
def lookup (s : Sources) : Except SettingsFailure Lookup :=
  if !s.environment.all isStorable then .error (.fault .malformed)
  else if !s.given.all fun e => (Lookup.textOf? e.1).isSome then .error (.fault .unsupported)
  else Lookup.ofGiven s.given

end Sources

namespace Settings

/-- One setting read from its source, or its standard value; problems become
issues. -/
def field {α β : Type} (name : SettingName) (read : α → Except Problem β) (source : Option α)
    (standard : β) : Except (List Issue) β :=
  match source with
  | none => .ok standard
  | some v => (read v).mapError fun p => [⟨name, none, p⟩]

/-- The list of paths; problems become issues. -/
def blacklistField (given : Option Value) (written : Option Json) :
    Except (List Issue) (List String) :=
  let read : Except (List ElementProblem) (List String) :=
    match given, written with
    | some v, _ => Setting.readTexts v
    | none, some j => Setting.readJsonTexts j
    | none, none => .ok standard.blacklist
  read.mapError fun problems => problems.map fun (index, p) => ⟨.blacklist, index, p⟩

def issuesOf {β : Type} : Except (List Issue) β → List Issue
  | .ok _ => []
  | .error issues => issues

def load (s : Sources) : Except SettingsFailure Settings := do
  let l ← s.lookup
  let inEnvironment ← l.findList s.inEnvironment .blacklist
  let inFile ← l.findList (s.inFile l) .blacklist
  let format := field .format Setting.readText (s.valueOf l .format) standard.format
  let blacklist := blacklistField (s.givenFor .blacklist) (inEnvironment.or inFile)
  let host := field .host Setting.readText (s.valueOf l .host) standard.host
  let port := field .port Setting.readPort (s.valueOf l .port) standard.port
  let verbosity :=
    field .verbosity Setting.readVerbosity (s.valueOf l .verbosity) standard.verbosity
  match format, blacklist, host, port, verbosity with
  | .ok format, .ok blacklist, .ok host, .ok port, .ok verbosity =>
    return { format, blacklist, host, port, verbosity }
  | _, _, _, _, _ =>
    throw (.invalid (issuesOf format ++ issuesOf blacklist ++ issuesOf host ++ issuesOf port ++
      issuesOf verbosity))

def ofGiven (given : Table) : Except SettingsFailure Settings := load ⟨given, [], none⟩

end Settings

end AccessLog
