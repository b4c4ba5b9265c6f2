import AccessLog.Capture.Basic
import AccessLog.Gateway.Event
import AccessLog.Gateway.KeptHost

/-!
# Activities

What an application, a host and an observer do in the course of an exchange. An
activity works on the live state of one exchange and on the number of clock
reads, which all exchanges share; it leaves a list of events and ends with a
value or a failure. A failure ends the activity and keeps what was done.
-/

namespace AccessLog.Gateway

/-- What is to be emitted when an exchange finishes: a line that mentions the
client's host kept from the start. -/
structure Emission where
  host : KeptHost
  deriving Repr, DecidableEq

/-- The live state of an exchange: its scope, which the application may change,
the number of messages handed to the host, and the capture, when the exchange is
observed. -/
structure Live where
  scope : Table
  sends : Nat
  capture : Option (Capture Emission)
  deriving Repr

/-- Changes the client's host that is kept, if one is. -/
def Live.changeHost (f : KeptHost → KeptHost) (live : Live) : Live :=
  { live with capture := live.capture.map fun c => c.mapHandler fun e => ⟨f e.host⟩ }

structure Outcome (α : Type) where
  events : List Event
  reads : Nat
  live : Live
  result : Except Failure α

/-- Something that happens in the course of an exchange. -/
def Activity (α : Type) := Nat → Live → Outcome α

namespace Activity

variable {α β : Type}

/-- Carries out one activity and then another that depends on its value; the
other does not take place when the first one fails. -/
def andThen (x : Activity α) (f : α → Activity β) : Activity β := fun reads live =>
  let first := x reads live
  match first.result with
  | .ok a =>
    let second := f a first.reads first.live
    { second with events := first.events ++ second.events }
  | .error cause => ⟨first.events, first.reads, first.live, .error cause⟩

instance : Monad Activity where
  pure a := fun reads live => ⟨[], reads, live, .ok a⟩
  bind := andThen

def leave (e : Event) : Activity Unit := fun reads live => ⟨[e], reads, live, .ok ()⟩

def fail (cause : Failure) : Activity α := fun reads live => ⟨[], reads, live, .error cause⟩

def live : Activity Live := fun reads live => ⟨[], reads, live, .ok live⟩

def change (f : Live → Live) : Activity Unit := fun reads live => ⟨[], reads, f live, .ok ()⟩

/-- A value, or the failure that a fault is. -/
def ofExcept : Except Fault α → Activity α
  | .ok a => pure a
  | .error cause => fail (.fault cause)

/-- Carries out an activity and takes its failure as a value. -/
def attempt (x : Activity α) : Activity (Except Failure α) := fun reads live =>
  let o := x reads live
  ⟨o.events, o.reads, o.live, .ok o.result⟩

/-- Carries out an activity and deals with an ordinary failure of it. -/
def recover (x : Activity Unit) (handle : Failure → Activity Unit) : Activity Unit := do
  match ← x.attempt with
  | .ok () => pure ()
  | .error cause => if cause.isOrdinary then handle cause else fail cause

def readClock (clock : Clock) : Activity Value := fun reads live =>
  let reading := clock reads
  let result :=
    match reading with
    | .tick v => .ok v
    | .fails cause => .error cause
  ⟨[.clock reading], reads + 1, live, result⟩

/-! ## Laws -/

theorem pure_apply (a : α) (reads : Nat) (live : Live) :
    (pure a : Activity α) reads live = ⟨[], reads, live, .ok a⟩ := rfl

theorem bind_apply (x : Activity α) (f : α → Activity β) (reads : Nat) (live : Live) :
    (x >>= f) reads live = andThen x f reads live := rfl

/-- After a success, the second activity goes on where the first one stopped. -/
theorem bind_apply_of_ok {x : Activity α} {f : α → Activity β} {reads : Nat} {live : Live} {a : α}
    (h : (x reads live).result = .ok a) :
    (x >>= f) reads live =
      { f a (x reads live).reads (x reads live).live with
        events := (x reads live).events ++ (f a (x reads live).reads (x reads live).live).events } := by
  simp only [bind_apply, andThen, h]

/-- After a failure, nothing more happens. -/
theorem bind_apply_of_error {x : Activity α} {f : α → Activity β} {reads : Nat} {live : Live}
    {cause : Failure} (h : (x reads live).result = .error cause) :
    (x >>= f) reads live =
      ⟨(x reads live).events, (x reads live).reads, (x reads live).live, .error cause⟩ := by
  simp only [bind_apply, andThen, h]

theorem pure_andThen (a : α) (f : α → Activity β) : andThen (pure a) f = f a := by
  funext reads live
  simp [andThen, pure_apply]

theorem andThen_pure (x : Activity α) : andThen x pure = x := by
  funext reads live
  unfold andThen
  obtain ⟨events, reads, live, result⟩ := x reads live
  cases result with
  | ok a => simp [pure_apply]
  | error cause => rfl

theorem andThen_assoc {γ : Type} (x : Activity α) (f : α → Activity β) (g : β → Activity γ) :
    andThen (andThen x f) g = andThen x fun a => andThen (f a) g := by
  funext reads live
  unfold andThen
  obtain ⟨events, reads, live, result⟩ := x reads live
  cases result with
  | error cause => rfl
  | ok a =>
    dsimp only
    obtain ⟨more, reads, live, result⟩ := f a reads live
    cases result with
    | ok b => simp
    | error cause => rfl

instance : LawfulMonad Activity := LawfulMonad.mk' Activity andThen_pure pure_andThen andThen_assoc

end Activity

end AccessLog.Gateway
