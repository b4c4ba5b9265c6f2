import AccessLog.Json.Token

/-!
# Reading JSON

A JSON text is read token by token, with a stack of the arrays and objects that
are still open, of which there may be no more than `Json.nestingLimit`. The
first token that does not fit decides why a text cannot be read. Only nulls,
texts and arrays are kept apart; of everything else it is enough to know that it
is well formed.
-/

namespace AccessLog

inductive Json where
  | null
  | text (points : List Nat)
  | array (items : List Json)
  | other
  deriving Repr

namespace Json

inductive Refusal where
  | malformed
  /-- Too many arrays and objects are open at once. -/
  | tooDeep
  deriving Repr, DecidableEq

/-- How many arrays and objects may be open at once. -/
def nestingLimit : Nat := 984

/-- An array or object that is still open. -/
inductive Frame where
  | array (items : List Json)
  | object
  deriving Repr

inductive Expected where
  | value
  /-- A value, or the end of the array that has just been opened. -/
  | firstItem
  | separator
  | key
  /-- A key, or the end of the object that has just been opened. -/
  | firstKey
  | colon
  deriving Repr, DecidableEq

/-- What has been read: a whole value, or a part with the open frames, innermost
first. -/
inductive Progress where
  | unfinished (frames : List Frame) (expected : Expected)
  | complete (v : Json)
  deriving Repr

namespace Progress

/-- Puts a value that has just ended into the innermost open frame. -/
def close (frames : List Frame) (v : Json) : Progress :=
  match frames with
  | [] => complete v
  | .array items :: rest => unfinished (.array (items ++ [v]) :: rest) .separator
  | .object :: rest => unfinished (.object :: rest) .separator

/-- Opens a frame inside the others. -/
def enter (frames : List Frame) (frame : Frame) (expected : Expected) : Except Refusal Progress :=
  if frames.length < nestingLimit then .ok (unfinished (frame :: frames) expected)
  else .error .tooDeep

def closeArray : List Frame → Except Refusal Progress
  | .array items :: rest => .ok (close rest (.array items))
  | _ => .error .malformed

def closeObject : List Frame → Except Refusal Progress
  | .object :: rest => .ok (close rest .other)
  | _ => .error .malformed

def next : List Frame → Except Refusal Progress
  | .array items :: rest => .ok (unfinished (.array items :: rest) .value)
  | .object :: rest => .ok (unfinished (.object :: rest) .key)
  | [] => .error .malformed

/-- Begins a value, or gives a value that is one token. -/
def startValue (frames : List Frame) : Token → Except Refusal Progress
  | .openArray => enter frames (.array []) .firstItem
  | .openObject => enter frames .object .firstKey
  | .null => .ok (close frames .null)
  | .text points => .ok (close frames (.text points))
  | .bool _ => .ok (close frames .other)
  | .number => .ok (close frames .other)
  | _ => .error .malformed

def step (p : Progress) (token : Token) : Except Refusal Progress :=
  match p with
  | complete _ => .error .malformed
  | unfinished frames .value => startValue frames token
  | unfinished frames .firstItem =>
    if token = .closeArray then closeArray frames else startValue frames token
  | unfinished frames .separator =>
    match token with
    | .comma => next frames
    | .closeArray => closeArray frames
    | .closeObject => closeObject frames
    | _ => .error .malformed
  | unfinished frames .key =>
    match token with
    | .text _ => .ok (unfinished frames .colon)
    | _ => .error .malformed
  | unfinished frames .firstKey =>
    match token with
    | .text _ => .ok (unfinished frames .colon)
    | .closeObject => closeObject frames
    | _ => .error .malformed
  | unfinished frames .colon =>
    if token = .colon then .ok (unfinished frames .value) else .error .malformed

/-- Takes the tokens of a text, at most as many as `fuel`. -/
def stepsWithin : Nat → Progress → List Char → Except Refusal Progress
  | 0, p, cs => if cs.all isSpace then .ok p else .error .malformed
  | fuel + 1, p, cs =>
    match cs.dropWhile isSpace with
    | [] => .ok p
    | cs =>
      match readToken cs with
      | none => .error .malformed
      | some (token, rest) => do stepsWithin fuel (← p.step token) rest

end Progress

/-- Reads a whole JSON text, each token of which has at least one character. -/
def read (text : String) : Except Refusal Json := do
  match ← Progress.stepsWithin text.length (.unfinished [] .value) text.toList with
  | .complete v => return v
  | .unfinished _ _ => throw .malformed

/-- The text of code points that are all characters. -/
def textOf? (points : List Nat) : Option String :=
  if points.all fun p => p.isValidChar then some (String.ofList (points.map Char.ofNat)) else none

end Json

end AccessLog
