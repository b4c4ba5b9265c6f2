import AccessLog.Record
import AccessLog.Value.Display

/-!
# Writing lines to a log

A log sink passes lines on to a log, without the line feeds at their end and at
a level of its own. The log drops records below its threshold.
-/

namespace AccessLog

/-- A sink that writes to a log. -/
structure LogSink where
  channel : Channel
  level : Value
  deriving Repr

namespace LogSink

/-- The sink for request lines. -/
def standard : LogSink := ⟨Channel.access, .int Level.info⟩

/-- A text without the line feeds at its end. -/
def withoutLineEnd (line : String) : String :=
  String.ofList ((line.toList.reverse.dropWhile (· == '\n')).reverse)

def lineText : Value → Except Fault String
  | .text s => .ok (withoutLineEnd s)
  | .bytes _ => .error .unsupported
  | .buffer _ => .error .unsupported
  | _ => .error .noOperation

/-- The threshold of a log: its own, or that of all logs when it has none. -/
def threshold (own : Option Level) : Level :=
  match own with
  | none => Level.debug
  | some level => if level = 0 then Level.debug else level

/-- Is a record of this level written, where records below the threshold are
dropped? Nothing is written at a level that is not positive. -/
def isEnabled (threshold level : Level) : Bool := 0 < level && threshold ≤ level

/-- Writes a line: the record that it becomes, if the log takes it. The level has
to be an integer. -/
def write (sink : LogSink) (threshold : Level) (line : Value) :
    Except Fault (Option Record) := do
  let s ← lineText line
  match sink.level.toInt? with
  | none => throw .unsupported
  | some level =>
    if isEnabled threshold level then return some ⟨level, sink.channel, .text s, none⟩
    else return none

end LogSink

end AccessLog
