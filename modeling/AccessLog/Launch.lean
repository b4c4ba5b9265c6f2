import AccessLog.Settings.Basic

/-!
# Launching the service

The service is started by handing a server the place of the factory that makes
the application, together with the address and the verbosity of the settings.
Only running the program launches it; loading it does not.
-/

namespace AccessLog

/-- What a server is started with. -/
structure Launch where
  application : String
  isFactory : Bool
  host : String
  port : Int
  verbosity : Verbosity
  deriving Repr, DecidableEq

namespace Launch

inductive Mode where
  | run
  | load
  deriving Repr, DecidableEq

def ofSettings (s : Settings) : Launch where
  application := "metriker.app:create_app"
  isFactory := true
  host := s.host
  port := s.port
  verbosity := s.verbosity

/-- The launches that a program performs. -/
def performed (mode : Mode) (s : Settings) : List Launch :=
  match mode with
  | .run => [ofSettings s]
  | .load => []

end Launch

end AccessLog
