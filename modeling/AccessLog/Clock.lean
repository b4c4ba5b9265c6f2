import AccessLog.Value.Basic

/-!
# Clocks

A clock answers its reads one after the other, each with a tick or with a
failure. What it answers depends on the number of reads before, so a clock that
several exchanges share is a function of that number.
-/

namespace AccessLog

inductive Reading where
  | tick (v : Value)
  | fails (cause : Failure)
  deriving Repr, DecidableEq

/-- A clock: the answer to each read, counted from zero. -/
def Clock := Nat → Reading

namespace Clock

/-- The clock that gives these answers and then repeats the last one; without
any it always reads zero. -/
def ofReadings (readings : List Reading) : Clock := fun reads =>
  match readings[reads]? with
  | some r => r
  | none => readings.getLast?.getD (.tick (.int 0))

end Clock

end AccessLog
