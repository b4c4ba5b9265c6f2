import AccessLog.Launch
import AccessLog.Settings.Load

/-!
# The command

Loads the settings from the environment and from the file `.env` in the working
directory, and says how the service is to be launched.
-/

namespace AccessLog

/-- The names under which settings are looked up in the environment. -/
def environmentNames : List String :=
  let names := [SettingName.format, .blacklist, .host, .port, .verbosity].map SettingName.text
  names ++ names.map Text.lower

def Launch.summary (l : Launch) : String :=
  l.application ++ (if l.isFactory then " (factory)" else "") ++ " on " ++ l.host ++ ":" ++
    Number.intText l.port ++ ", log level " ++ l.verbosity.name

def Issue.summary (i : Issue) : String :=
  i.setting.text ++ (i.index.elim "" fun n => "." ++ Number.natText n) ++ ": " ++ i.problem.code

def SettingsFailure.summary : SettingsFailure → List String
  | .fault _ => ["the given values cannot be used"]
  | .unreadable => [SettingName.blacklist.text ++ ": not JSON"]
  | .tooDeep => [SettingName.blacklist.text ++ ": nested too deeply"]
  | .invalid issues => issues.map Issue.summary

/-- The lines that the command prints, and whether it succeeds. -/
def report (s : Sources) : List String × Bool :=
  match Settings.load s with
  | .ok settings => ((Launch.performed .run settings).map Launch.summary, true)
  | .error failure => (failure.summary, false)

end AccessLog

def main : IO UInt32 := do
  let settings ← AccessLog.environmentNames.mapM fun name => return (name, ← IO.getEnv name)
  let environment := settings.filterMap fun (name, v) => v.map (name, ·)
  let file ← try some <$> IO.FS.readFile ".env" catch _ => pure none
  let (lines, succeeded) := AccessLog.report ⟨[], environment, file⟩
  for line in lines do
    IO.println line
  return if succeeded then 0 else 1
