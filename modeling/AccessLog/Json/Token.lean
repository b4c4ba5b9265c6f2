import AccessLog.Number.Decimal

/-!
# Tokens of a JSON text

A JSON text is read token by token. Texts are kept as the numbers of their code
points, because an escape may name half of a surrogate pair on its own, which no
character is. Besides the numbers of the standard, `NaN`, `Infinity` and
`-Infinity` are taken as numbers; integers are limited to `Number.digitLimit`
digits.
-/

namespace AccessLog.Json

/-- A token of a JSON text. The content of a number does not matter here. -/
inductive Token where
  | openArray
  | closeArray
  | openObject
  | closeObject
  | comma
  | colon
  | null
  | bool (b : Bool)
  | number
  | text (points : List Nat)
  deriving Repr, DecidableEq

/-! ## Texts -/

def hexValue? (c : Char) : Option Nat :=
  if '0' ≤ c ∧ c ≤ '9' then some (c.toNat - '0'.toNat)
  else if 'a' ≤ c ∧ c ≤ 'f' then some (c.toNat - 'a'.toNat + 10)
  else if 'A' ≤ c ∧ c ≤ 'F' then some (c.toNat - 'A'.toNat + 10)
  else none

/-- The number of four hexadecimal digits. -/
def unit? (a b c d : Char) : Option Nat := do
  return ((← hexValue? a) * 16 + (← hexValue? b)) * 256 + (← hexValue? c) * 16 + (← hexValue? d)

def shortEscape? : Char → Option Char
  | '"' => some '"'
  | '\\' => some '\\'
  | '/' => some '/'
  | 'b' => some '\x08'
  | 'f' => some '\x0c'
  | 'n' => some '\n'
  | 'r' => some '\r'
  | 't' => some '\t'
  | _ => none

/-- Puts a UTF-16 unit before code points: the first half of a surrogate pair
joins the second half, if that comes next and is an escape too. -/
def joinUnit (unit : Nat) (next : Option Nat) : List Nat → List Nat
  | point :: rest =>
    if 0xD800 ≤ unit ∧ unit < 0xDC00 ∧ next = some point ∧ 0xDC00 ≤ point ∧ point < 0xE000 then
      (0x10000 + (unit - 0xD800) * 0x400 + (point - 0xDC00)) :: rest
    else unit :: point :: rest
  | [] => [unit]

def leadingUnit? : List Char → Option Nat
  | '\\' :: 'u' :: a :: b :: c :: d :: _ => unit? a b c d
  | _ => none

/-- Reads the rest of a text up to its closing quote: its code points, and what
follows. -/
def readText : List Char → Option (List Nat × List Char)
  | '"' :: rest => some ([], rest)
  | '\\' :: 'u' :: a :: b :: c :: d :: rest => do
    let unit ← unit? a b c d
    let (points, tail) ← readText rest
    return (joinUnit unit (leadingUnit? rest) points, tail)
  | '\\' :: e :: rest => do
    let c ← shortEscape? e
    let (points, tail) ← readText rest
    return (c.toNat :: points, tail)
  | c :: rest =>
    if c.toNat < 0x20 ∨ c = '\\' then none
    else do
      let (points, tail) ← readText rest
      return (c.toNat :: points, tail)
  | [] => none

/-! ## Numbers -/

def dropFraction : List Char → List Char
  | '.' :: d :: rest => if d.isDigit then rest.dropWhile Char.isDigit else '.' :: d :: rest
  | cs => cs

/-- Drops the digits of an exponent, if there are any. -/
def dropExponentDigits (otherwise : List Char) : List Char → List Char
  | d :: rest => if d.isDigit then rest.dropWhile Char.isDigit else otherwise
  | [] => otherwise

def dropExponent : List Char → List Char
  | e :: rest =>
    if e = 'e' ∨ e = 'E' then
      match rest with
      | '+' :: ds => dropExponentDigits (e :: rest) ds
      | '-' :: ds => dropExponentDigits (e :: rest) ds
      | ds => dropExponentDigits (e :: rest) ds
    else e :: rest
  | [] => []

/-- What follows an unsigned number: a zero, or digits that do not start with
one, then a fraction and an exponent. -/
def afterNumber? (cs : List Char) : Option (List Char) :=
  let whole :=
    match cs with
    | '0' :: _ => ['0']
    | _ => cs.takeWhile Char.isDigit
  let rest := cs.drop whole.length
  let tail := dropExponent (dropFraction rest)
  if whole.isEmpty then none
  else if tail.length = rest.length ∧ Number.digitLimit < whole.length then none
  else some tail

/-! ## Tokens -/

/-- The characters that may stand between tokens. -/
def isSpace (c : Char) : Bool := c == ' ' || c == '\t' || c == '\n' || c == '\r'

/-- What follows a word at the front. -/
def afterWord? (word : String) (cs : List Char) : Option (List Char) :=
  if word.toList.isPrefixOf cs then some (cs.drop word.length) else none

/-- Reads one token that is a word or a number. -/
def readWord (cs : List Char) : Option (Token × List Char) :=
  match afterWord? "null" cs, afterWord? "true" cs, afterWord? "false" cs,
    (afterWord? "NaN" cs).or ((afterWord? "Infinity" cs).or (afterWord? "-Infinity" cs)) with
  | some rest, _, _, _ => some (.null, rest)
  | _, some rest, _, _ => some (.bool true, rest)
  | _, _, some rest, _ => some (.bool false, rest)
  | _, _, _, some rest => some (.number, rest)
  | _, _, _, _ =>
    match cs with
    | '-' :: unsigned => (afterNumber? unsigned).map (.number, ·)
    | unsigned => (afterNumber? unsigned).map (.number, ·)

/-- Reads one token at the front, where no blank stands. -/
def readToken : List Char → Option (Token × List Char)
  | '[' :: rest => some (.openArray, rest)
  | ']' :: rest => some (.closeArray, rest)
  | '\x7b' :: rest => some (.openObject, rest)
  | '\x7d' :: rest => some (.closeObject, rest)
  | ',' :: rest => some (.comma, rest)
  | ':' :: rest => some (.colon, rest)
  | '"' :: rest => (readText rest).map fun (points, tail) => (.text points, tail)
  | cs => readWord cs

end AccessLog.Json
