/-!
# Settings

What a service that writes request lines can be told from outside: the format of
a line, the paths that get none, and how the service is launched.
-/

namespace AccessLog

inductive Verbosity where
  | critical
  | error
  | warning
  | info
  | debug
  | trace
  deriving Repr, DecidableEq

namespace Verbosity

def all : List Verbosity := [critical, error, warning, info, debug, trace]

/-- The name under which a setting mentions the verbosity. -/
def name : Verbosity → String
  | critical => "critical"
  | error => "error"
  | warning => "warning"
  | info => "info"
  | debug => "debug"
  | trace => "trace"

def ofName? (s : String) : Option Verbosity := all.find? fun v => v.name == s

end Verbosity

structure Settings where
  format : String
  blacklist : List String
  host : String
  port : Int
  verbosity : Verbosity
  deriving Repr, DecidableEq

namespace Settings

def standard : Settings where
  format := ":method :url :status :res[content-length] - :response-time ms"
  blacklist := ["/favicon.ico"]
  host := "0.0.0.0"
  port := 8000
  verbosity := .info

end Settings

/-- The settings by name. -/
inductive SettingName where
  | format
  | blacklist
  | host
  | port
  | verbosity
  deriving Repr, DecidableEq

namespace SettingName

def text : SettingName → String
  | format => "METRIKER_FORMAT"
  | blacklist => "METRIKER_BLACKLIST"
  | host => "HOST"
  | port => "PORT"
  | verbosity => "LOG_LEVEL"

end SettingName

end AccessLog
