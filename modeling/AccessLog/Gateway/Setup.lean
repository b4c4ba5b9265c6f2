import AccessLog.Gateway.Observer
import AccessLog.Options

/-!
# Setting up an observer

An observer is made of its options and of the participants that it works with:
a clock, a callback and a sink.
-/

namespace AccessLog.Gateway

/-- Who an observer works with. -/
structure Participants where
  clock : Clock
  callback : Option (Nat → Named String → Option Failure)
  sink : Nat → String → Option Failure

namespace Observer

/-- An observer with a format and a blacklist; a `null` leaves them to the
settings. -/
def configure (format blacklist : Value) (output : Output) (p : Participants)
    (settings : Settings) : Except OptionsFailure Observer := do
  let callback : Callback := if p.callback.isSome then .given true else .none
  let options ← Options.build { format, blacklist, output, callback } settings
  return {
    template := Template.parse options.format
    blacklist := options.blacklist
    clock := p.clock
    callback := p.callback
    sink := p.sink }

end Observer

end AccessLog.Gateway
