import AccessLog.Number.Decimal
import AccessLog.Value.Basic

/-!
# Durations

The time between two ticks, in milliseconds with three places. Ticks count
nanoseconds; a clock that runs backwards gives zero. The quotient is rounded to
a binary64 number first and its exact binary value is then rounded to the
places. Ticks are integers as a rule; floating-point ticks are subtracted as
such.
-/

namespace AccessLog

namespace Duration

open Number

def perMillisecond : Nat := 1000000

/-- A number of nanoseconds in milliseconds; `none` when that is beyond the
range of binary64. -/
def millis? (nanoseconds : Nat) : Option String :=
  (magnitudeOf? nanoseconds perMillisecond).map fun m => thousandthsText m.thousandths

/-- The difference of two integer ticks, not below zero. -/
def elapsed (start stop : Int) : Nat := (stop - start).toNat

/-- The time between two integer ticks. -/
def between (start stop : Int) : Except Fault String :=
  match millis? (elapsed start stop) with
  | some s => .ok s
  | none => .error .outOfRange

/-- An integer tick as a binary64 number. -/
def ofIntTick (n : Int) : Except Fault Binary64 :=
  match Binary64.ofInt? n with
  | some x => .ok x
  | none => .error .outOfRange

/-- A floating-point difference, in milliseconds; negative ones count as zero. -/
def ofDifference (x : Binary64) : String :=
  if x.isNegative then thousandthsText 0 else (x.divNat perMillisecond).toThreePlaces

/-- The time between two ticks of a clock. -/
def ofTicks (start stop : Value) : Except Fault String :=
  match start.toInt?, start, stop.toInt?, stop with
  | some a, _, some b, _ => between a b
  | some a, _, none, .float y => do return ofDifference (y.sub (← ofIntTick a))
  | none, .float x, some b, _ => do return ofDifference ((← ofIntTick b).sub x)
  | none, .float x, none, .float y => .ok (ofDifference (y.sub x))
  | _, _, _, _ => .error .unsupported

end Duration

end AccessLog
