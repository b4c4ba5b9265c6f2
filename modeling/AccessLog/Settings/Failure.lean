import AccessLog.Settings.Field

/-!
# Why there are no settings

Settings of the wrong kind are reported together, one issue for each. All other
failures end the loading at once.
-/

namespace AccessLog

structure Issue where
  setting : SettingName
  index : Option Nat
  problem : Problem
  deriving Repr, DecidableEq

inductive SettingsFailure where
  /-- The values given directly cannot be used as such. -/
  | fault (cause : Fault)
  /-- A source cannot be read: a list is not written as JSON, or names cannot be
  formed. -/
  | unreadable
  /-- A list is nested too deeply to be read. -/
  | tooDeep
  /-- Settings have the wrong kind; the issues stand in the order of the
  settings. -/
  | invalid (issues : List Issue)
  deriving Repr, DecidableEq

end AccessLog
