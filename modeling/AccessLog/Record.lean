import AccessLog.Value.Table

/-!
# Log records

What this library reports about itself, and what a log sink passes on. A record
keeps the failure it reports.
-/

namespace AccessLog

/-- The level of a record; higher is graver. -/
abbrev Level := Int

namespace Level

/-- For developers. -/
def debug : Level := 10

/-- The level of request lines. -/
def info : Level := 20

/-- Something went wrong and was dealt with. -/
def error : Level := 40

end Level

/-- The name of the log that a record belongs to. -/
abbrev Channel := String

namespace Channel

def middleware : Channel := "metriker.api.middleware.metrics"
def capture : Channel := "metriker.services.timing"
def resolver : Channel := "metriker.services.token_resolver"
def access : Channel := "metriker.access"
def service : Channel := "metriker.app"

/-- The log under a name; without a name it is the root of all logs. -/
def named (name : String) : Channel := if name = "" then "root" else name

end Channel

/-- What a record says: a text, or a text and a map that is kept beside it. -/
inductive Message where
  | text (s : String)
  | withMap (s : String) (entries : Table)
  deriving Repr, DecidableEq

structure Record where
  level : Level
  channel : Channel
  message : Message
  cause : Option Failure
  deriving Repr, DecidableEq

namespace Record

/-- A record of a failure that was dealt with. -/
def ofFailure (channel : Channel) (message : Message) (cause : Failure) : Record :=
  ⟨Level.error, channel, message, some cause⟩

/-- A remark for developers. -/
def remark (channel : Channel) (message : String) : Record :=
  ⟨Level.debug, channel, .text message, none⟩

end Record

end AccessLog
