import AccessLog.Named
import AccessLog.Text.Blank

/-!
# Settings files

A settings file holds bindings `NAME=value`, one after the other, with blank
lines and comments between them; a byte order mark may come first. A value may
be quoted, in which case it may run over several lines and hold escapes; an
unquoted one ends at the end of its line or at a blank followed by `#`, so it may
be empty. A name without `=` is bound to nothing. A line that is none of this is
skipped. In values, `${NAME}` and `${NAME:-default}`
stand for earlier bindings or for variables of the environment.
-/

namespace AccessLog.Dotenv

structure Binding where
  name : String
  value : Option String
  deriving Repr, DecidableEq

/-! ## Characters -/

/-- Line ends are all the same: a carriage return, with or without a line feed
after it, is a line feed. -/
def normalizeLines : List Char → List Char
  | '\r' :: '\n' :: rest => '\n' :: normalizeLines rest
  | '\r' :: rest => '\n' :: normalizeLines rest
  | c :: rest => c :: normalizeLines rest
  | [] => []

/-- What follows the byte order mark, if there is one. -/
def skipMark : List Char → List Char
  | '\ufeff' :: rest => rest
  | cs => cs

/-- A blank within a line. -/
def isLineBlank (c : Char) : Bool := Text.isBlank c && c != '\n' && c != '\r'

def skipLineBlanks (cs : List Char) : List Char := cs.dropWhile isLineBlank

def skipLine (cs : List Char) : List Char := (cs.dropWhile (· != '\n')).drop 1

/-! ## Names -/

/-- What follows the word `export` and a blank, if they are there. -/
def skipExport (cs : List Char) : List Char :=
  let word := "export".toList
  let rest := cs.drop word.length
  if word.isPrefixOf cs && rest.head?.any isLineBlank then skipLineBlanks rest else cs

/-- A character that an unquoted name may hold. -/
def isNameChar (c : Char) : Bool := c != '=' && c != '#' && !Text.isBlank c

/-- Reads a name: `none` within the result when a comment stands in its place. -/
def readName (cs : List Char) : Option (Option String × List Char) :=
  match cs with
  | '#' :: _ => some (none, cs)
  | '\'' :: rest =>
    let name := rest.takeWhile (· != '\'')
    match rest.dropWhile (· != '\'') with
    | _ :: tail => if name.isEmpty then none else some (some (String.ofList name), tail)
    | [] => none
  | _ =>
    let name := cs.takeWhile isNameChar
    if name.isEmpty then none
    else some (some (String.ofList name), cs.dropWhile isNameChar)

/-! ## Values -/

/-- Splits at the quote that ends a quoted value. A backslash covers the
character after it, so a quote there ends nothing. -/
def splitAtQuote (quote : Char) : List Char → Option (List Char × List Char)
  | [] => none
  | '\\' :: c :: rest =>
    (splitAtQuote quote rest).map fun (inner, tail) => ('\\' :: c :: inner, tail)
  | c :: rest =>
    if c = quote then some ([], rest)
    else (splitAtQuote quote rest).map fun (inner, tail) => (c :: inner, tail)

/-- The character that a letter after a backslash stands for between double
quotes. -/
def escaped? : Char → Option Char
  | '\\' => some '\\'
  | '\'' => some '\''
  | '"' => some '"'
  | 'a' => some '\x07'
  | 'b' => some '\x08'
  | 'f' => some '\x0c'
  | 'n' => some '\n'
  | 'r' => some '\r'
  | 't' => some '\t'
  | 'v' => some '\x0b'
  | _ => none

def unescape (character? : Char → Option Char) : List Char → List Char
  | '\\' :: c :: rest =>
    match character? c with
    | some d => d :: unescape character? rest
    | none => '\\' :: unescape character? (c :: rest)
  | c :: rest => c :: unescape character? rest
  | [] => []

/-- Between single quotes only the backslash and the single quote are escaped. -/
def singleEscaped? (c : Char) : Option Char := if c = '\\' ∨ c = '\'' then some c else none

/-- Does a comment follow blanks here? -/
def startsComment (cs : List Char) : Bool :=
  cs.head?.any Text.isBlank && (cs.dropWhile Text.isBlank).head? == some '#'

/-- Cuts off a comment that follows a blank. -/
def withoutComment : List Char → List Char
  | [] => []
  | c :: rest => if startsComment (c :: rest) then [] else c :: withoutComment rest

/-- Reads a value, which blanks may precede. -/
def readValue (cs : List Char) : Option (String × List Char) :=
  match skipLineBlanks cs with
  | '\'' :: rest => do
    let (inner, tail) ← splitAtQuote '\'' rest
    return (String.ofList (unescape singleEscaped? inner), tail)
  | '"' :: rest => do
    let (inner, tail) ← splitAtQuote '"' rest
    return (String.ofList (unescape escaped? inner), tail)
  | _ =>
    let line := cs.takeWhile (· != '\n')
    some (String.ofList (Text.trim (withoutComment line)), cs.dropWhile (· != '\n'))

/-! ## Bindings -/

/-- What follows a comment, if there is one, and the end of the line, which has
to come next. -/
def endLine? (cs : List Char) : Option (List Char) :=
  let cs :=
    match skipLineBlanks cs with
    | '#' :: rest => rest.dropWhile (· != '\n')
    | _ => cs
  match skipLineBlanks cs with
  | [] => some []
  | '\n' :: rest => some rest
  | _ => none

/-- Reads one binding, or a comment. When it fails it tells where it has come
to. -/
def readBinding (cs : List Char) : Except (List Char) (Option Binding × List Char) := do
  let start := skipExport cs
  let some (name, rest) := readName start | throw start
  match skipLineBlanks rest with
  | '=' :: tail =>
    let some (value, rest) := readValue tail | throw (skipLineBlanks tail)
    let some next := endLine? rest | throw rest
    return (name.map (⟨·, some value⟩), next)
  | rest =>
    let some next := endLine? rest | throw rest
    return (name.map (⟨·, none⟩), next)

/-- Reads bindings, at most as many as `fuel`. -/
def bindingsWithin : Nat → List Char → List Binding
  | 0, _ => []
  | fuel + 1, cs =>
    match cs.dropWhile Text.isBlank with
    | [] => []
    | start =>
      match readBinding start with
      | .ok (some binding, rest) => binding :: bindingsWithin fuel rest
      | .ok (none, rest) => bindingsWithin fuel rest
      | .error stop => bindingsWithin fuel (skipLine stop)

/-- The bindings of a settings file; each of them has at least one character. -/
def bindings (text : String) : List Binding :=
  bindingsWithin text.length (normalizeLines (skipMark text.toList))

/-! ## References to other bindings -/

inductive Piece where
  | literal (c : Char)
  | reference (name : String) (default : String)
  deriving Repr, DecidableEq

/-- Reads a reference after its opening `${`: a name, an optional default, and
the closing brace. -/
def readReference? (cs : List Char) : Option (Piece × List Char) :=
  let name := cs.takeWhile fun c => c != '\x7d' && c != ':'
  match cs.drop name.length with
  | '\x7d' :: rest => some (.reference (String.ofList name) "", rest)
  | ':' :: '-' :: tail =>
    let default := tail.takeWhile (· != '\x7d')
    match tail.drop default.length with
    | _ :: rest => some (.reference (String.ofList name) (String.ofList default), rest)
    | [] => none
  | _ => none

/-- Cuts a value into pieces, at most as many as `fuel`. -/
def piecesWithin : Nat → List Char → List Piece
  | 0, _ => []
  | _ + 1, [] => []
  | fuel + 1, c :: rest =>
    match c, rest with
    | '$', '\x7b' :: tail =>
      match readReference? tail with
      | some (piece, tail) => piece :: piecesWithin fuel tail
      | none => .literal c :: piecesWithin fuel rest
    | _, _ => .literal c :: piecesWithin fuel rest

/-- What a name refers to: the last binding before, or else a variable of the
environment; `none` within the result when the name is bound to nothing. -/
def lookup (environment : Named String) (earlier : Named (Option String)) (name : String) :
    Option (Option String) :=
  match earlier.get? name with
  | some v => some v
  | none => (environment.get? name).map some

def Piece.text (environment : Named String) (earlier : Named (Option String)) : Piece → String
  | .literal c => String.ofList [c]
  | .reference name default =>
    match lookup environment earlier name with
    | some v => v.getD ""
    | none => default

/-- A value with its references replaced. -/
def resolve (environment : Named String) (earlier : Named (Option String)) (value : String) :
    String :=
  String.join ((piecesWithin value.length value.toList).map (Piece.text environment earlier))

/-- The values of a settings file, by name; later bindings override earlier
ones. -/
def read (environment : Named String) (text : String) : Named (Option String) :=
  (bindings text).foldl
    (fun earlier b => earlier.set b.name (b.value.map (resolve environment earlier))) []

end AccessLog.Dotenv
