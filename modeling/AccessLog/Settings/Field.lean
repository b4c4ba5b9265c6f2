import AccessLog.Json.Reader
import AccessLog.Settings.Basic
import AccessLog.Text.Blank
import AccessLog.Value.Basic

/-!
# Reading one setting

A setting is given as a value, as a text from the environment, or, for a list,
as a JSON text. A value of the wrong kind is refused, but whole numbers may be
written in several ways.
-/

namespace AccessLog

inductive Problem where
  | notText
  | notUnicode
  | notList
  | notInteger
  | notDigits
  | tooManyDigits
  | notWhole
  | notFinite
  | notAmongChoices
  deriving Repr, DecidableEq

namespace Problem

def code : Problem → String
  | notText => "string_type"
  | notUnicode => "string_unicode"
  | notList => "list_type"
  | notInteger => "int_type"
  | notDigits => "int_parsing"
  | tooManyDigits => "int_parsing_size"
  | notWhole => "int_from_float"
  | notFinite => "finite_number"
  | notAmongChoices => "literal_error"

end Problem

/-- A problem, with the index of the element that has it. -/
abbrev ElementProblem := Option Nat × Problem

namespace Setting

/-! ## Texts -/

/-- The text of bytes in UTF-8. -/
def ofUtf8? (bs : List UInt8) : Option String := String.fromUTF8? ⟨bs.toArray⟩

def readText : Value → Except Problem String
  | .text s => .ok s
  | .bytes bs => (ofUtf8? bs).elim (.error .notUnicode) .ok
  | .buffer bs => (ofUtf8? bs).elim (.error .notUnicode) .ok
  | _ => .error .notText

/-- Reads a JSON text. One that holds half of a surrogate pair is taken too,
although it is no text of characters. -/
def readJsonText : Json → Except Problem (Option String)
  | .text points => .ok (Json.textOf? points)
  | _ => .error .notText

/-! ## Lists -/

/-- Reads the elements of a list from the given index on, and collects the
problems of all of them. -/
def readElements {α β : Type} (read : α → Except Problem β) :
    Nat → List α → Except (List ElementProblem) (List β)
  | _, [] => .ok []
  | i, x :: rest =>
    match read x, readElements read (i + 1) rest with
    | .ok s, .ok ss => .ok (s :: ss)
    | .ok _, .error problems => .error problems
    | .error p, .ok _ => .error [(some i, p)]
    | .error p, .error problems => .error ((some i, p) :: problems)

def readTexts : Value → Except (List ElementProblem) (List String)
  | .list vs => readElements readText 0 vs
  | .tuple vs => readElements readText 0 vs
  | _ => .error [(none, .notList)]

/-- Reads a JSON list of texts. An element that is no text of characters equals
no path and is left out. -/
def readJsonTexts : Json → Except (List ElementProblem) (List String)
  | .array items => (readElements readJsonText 0 items).map fun texts => texts.filterMap id
  | _ => .error [(none, .notList)]

/-! ## Whole numbers -/

/-- Is the character Unicode white space? -/
def isWhiteSpace (c : Char) : Bool := Text.isBlank c && !(0x1C ≤ c.toNat && c.toNat ≤ 0x1F)

def trimWhiteSpace (cs : List Char) : List Char :=
  ((cs.dropWhile isWhiteSpace).reverse.dropWhile isWhiteSpace).reverse

/-- Drops a plus sign from the front; there may be no other sign after it. -/
def withoutPlus? : List Char → Option (List Char)
  | '+' :: '-' :: _ => none
  | '+' :: rest => some rest
  | cs => some cs

/-- Drops zeros and underscores from the front, after some have been dropped
already. The last of them stays before a point and at the end. -/
def skipZeros? (last : Char) : List Char → Option (List Char)
  | [] => some [last]
  | c :: rest =>
    if c = '0' ∨ c = '_' then skipZeros? c rest
    else if c.isDigit ∨ c = '-' then some (c :: rest)
    else if c = '.' then some (last :: c :: rest)
    else none

/-- Drops needless zeros from the front, with the underscores among them. -/
def withoutLeadingZeros? : List Char → Option (List Char)
  | '0' :: rest => skipZeros? '0' rest
  | c :: rest => if c.isDigit ∨ c = '-' then some (c :: rest) else none
  | [] => none

/-- Drops a fraction of zeros from the end. -/
def withoutZeroFraction (cs : List Char) : List Char :=
  match cs.reverse.dropWhile (· == '0') with
  | '.' :: whole => if cs.reverse.head? == some '0' then whole.reverse else cs
  | _ => cs

/-- Is every underscore followed by something else? -/
def underscoresSeparate : List Char → Bool
  | [] => true
  | ['_'] => false
  | '_' :: '_' :: _ => false
  | _ :: rest => underscoresSeparate rest

/-- Drops single underscores between other characters. -/
def withoutUnderscores (cs : List Char) : List Char :=
  if cs.head? == some '_' || !underscoresSeparate cs then cs else cs.filter (· != '_')

/-- Changes what follows a minus sign, or the whole text if there is none. -/
def belowMinus? (change : List Char → Option (List Char)) : List Char → Option (List Char)
  | '-' :: rest => (change rest).map ('-' :: ·)
  | cs => change cs

/-- The plain form of a number that is written more freely: with white space
around it, a plus sign, needless zeros before its digits, a fraction of zeros,
and underscores. -/
def tidy? (cs : List Char) : Option (List Char) := do
  let body ← withoutPlus? (trimWhiteSpace cs)
  let body ← belowMinus? withoutLeadingZeros? body
  return withoutUnderscores (withoutZeroFraction body)

/-- Reads a whole number in plain form: digits that do not begin with a needless
zero, after a minus sign if it is negative. Too many digits are refused whatever
comes after them. -/
def readPlain (cs : List Char) : Except Problem Int :=
  let isNegative := cs.head? == some '-'
  let body := if isNegative then cs.tail else cs
  match body.takeWhile Char.isDigit with
  | [] => .error .notDigits
  | '0' :: _ => if body = ['0'] then .ok 0 else .error .notDigits
  | ds =>
    if Number.digitLimit < ds.length then .error .tooManyDigits
    else if ds.length < body.length then .error .notDigits
    else
      let n : Int := Number.digitsValue ds
      .ok (if isNegative then -n else n)

/-- Reads a whole number, in plain form or not. That a number is too long is
said only of the plain form. -/
def readInteger (s : String) : Except Problem Int :=
  match readPlain s.toList with
  | .error .notDigits =>
    match tidy? s.toList with
    | some cs => (readPlain cs).mapError fun _ => .notDigits
    | none => .error .notDigits
  | result => result

/-- Reads a whole number from a floating-point number that is one. -/
def readWhole (x : Number.Binary64) : Except Problem Int :=
  match x with
  | .finite _ _ =>
    match x.toInt? with
    | none => .error .notWhole
    | some n => if n.natAbs < Nat.pow 2 63 then .ok n else .error .tooManyDigits
  | _ => .error .notFinite

def readPort : Value → Except Problem Int
  | .int n => .ok n
  | .bool b => .ok (if b then 1 else 0)
  | .float x => readWhole x
  | .text s => readInteger s
  | .bytes bs =>
    match ofUtf8? bs with
    | some s => readInteger s
    | none => .error .notDigits
  | _ => .error .notInteger

def readVerbosity : Value → Except Problem Verbosity
  | .text s => (Verbosity.ofName? s).elim (.error .notAmongChoices) .ok
  | _ => .error .notAmongChoices

end Setting

end AccessLog
