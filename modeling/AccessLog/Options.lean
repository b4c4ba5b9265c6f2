import AccessLog.Settings.Basic
import AccessLog.Value.Display
import AccessLog.Value.Same

/-!
# Options of an observer

An observer is configured by arguments that override the settings. An argument
counts as missing only when it is `null`, so an empty format or an empty list
overrides too. The checks are made in a fixed order, and the first one that
fails decides.
-/

namespace AccessLog

inductive ConfigurationError where
  | formatNotText (kind : String)
  | blacklistIsText
  | outputNotWritable
  | callbackNotCallable
  deriving Repr, DecidableEq

namespace ConfigurationError

def message : ConfigurationError → String
  | formatNotText kind => "format must be a string, got " ++ kind
  | blacklistIsText => "blacklist must be a collection of paths, not a single string"
  | outputNotWritable => "output must expose a callable write()"
  | callbackNotCallable => "callback must be callable"

end ConfigurationError

inductive OptionsFailure where
  | configuration (e : ConfigurationError)
  | fault (cause : Fault)
  deriving Repr, DecidableEq

/-- Where lines are to be written. -/
inductive Output where
  /-- Nothing was asked for: the standard output. -/
  | standard
  /-- A participant, which may or may not be able to write. Its number says who it is. -/
  | given (canWrite : Bool) (participant : Nat := 0)
  deriving Repr, DecidableEq

namespace Output

def canWrite : Output → Bool
  | standard => true
  | given b _ => b

end Output

/-- Who is to be told about the tokens of a line. -/
inductive Callback where
  | none
  /-- A participant, which may or may not be callable. Its number says who it is. -/
  | given (canCall : Bool) (participant : Nat := 0)
  deriving Repr, DecidableEq

namespace Callback

/-- Is there nobody to call, or somebody who can be called? -/
def isValid : Callback → Bool
  | none => true
  | given b _ => b

end Callback

structure Arguments where
  format : Value
  blacklist : Value
  output : Output
  callback : Callback
  deriving Repr

structure Options where
  format : String
  blacklist : List Value
  output : Output
  callback : Callback
  deriving Repr

namespace Options

/-- The argument, or a standard value in place of a missing one. -/
def orStandard (argument standard : Value) : Value :=
  if argument = .null then standard else argument

/-- The format, which has to be a text. -/
def checkFormat : Value → Except ConfigurationError String
  | .text s => .ok s
  | v => .error (.formatNotText v.kindName)

/-- Is the value a single text, rather than a collection? -/
def isSingleText : Value → Bool
  | .text _ => true
  | .bytes _ => true
  | _ => false

/-- The elements of a collection without repetitions; each of them has to be fit
for a key. -/
def toSet (collection : Value) : Except Fault (List Value) := do
  let vs ← collection.elements
  if vs.all Value.isHashable then return Value.distinct vs else throw .unsupported

/-- The first configuration error, if there is one. -/
def firstError? (format blacklist : Value) (output : Output) (callback : Callback) :
    Option ConfigurationError :=
  match checkFormat format with
  | .error e => some e
  | .ok _ =>
    if isSingleText blacklist then some .blacklistIsText
    else if !output.canWrite then some .outputNotWritable
    else if !callback.isValid then some .callbackNotCallable
    else none

/-- Merges the arguments with the settings and checks them. -/
def build (a : Arguments) (settings : Settings) : Except OptionsFailure Options := do
  let format := orStandard a.format (.text settings.format)
  let blacklist := orStandard a.blacklist (.list (settings.blacklist.map .text))
  if let some e := firstError? format blacklist a.output a.callback then
    throw (.configuration e)
  let format ← (checkFormat format).mapError .configuration
  let blacklist ← (toSet blacklist).mapError .fault
  return { format, blacklist, output := a.output, callback := a.callback }

end Options

end AccessLog
