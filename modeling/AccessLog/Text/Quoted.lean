import AccessLog.Text.PrintableTable

/-!
# Quoted text

How a text or a byte string is shown inside another text: between single
quotes, or between double quotes when it holds a single quote and no double
one, with the quote, the backslash and everything unprintable escaped.
-/

namespace AccessLog.Text

/-- The quote that surrounds these characters. -/
def quoteFor (cs : List Char) : Char :=
  if cs.contains '\'' && !cs.contains '"' then '"' else '\''

def hexDigit (n : Nat) : Char := "0123456789abcdef".toList.getD n '0'

/-- The last `width` hexadecimal digits of `n`. -/
def hexDigits : Nat → Nat → List Char
  | 0, _ => []
  | width + 1, n => hexDigits width (n / 16) ++ [hexDigit (n % 16)]

/-- An escape that names the code point. -/
def escapeCode (n : Nat) : List Char :=
  if n < 0x100 then '\\' :: 'x' :: hexDigits 2 n
  else if n < 0x10000 then '\\' :: 'u' :: hexDigits 4 n
  else '\\' :: 'U' :: hexDigits 8 n

/-- One character between quotes; `marked` is the quote that a backslash has to
precede. -/
def escapeChar (marked : Char) (printable : Char → Bool) (c : Char) : List Char :=
  if c = marked || c = '\\' then ['\\', c]
  else if c = '\n' then ['\\', 'n']
  else if c = '\r' then ['\\', 'r']
  else if c = '\t' then ['\\', 't']
  else if printable c then [c]
  else escapeCode c.toNat

/-- Characters between quotes, with those that are not printable escaped. -/
def quoteChars (printable : Char → Bool) (cs : List Char) : List Char :=
  let quote := quoteFor cs
  quote :: (cs.flatMap (escapeChar quote printable) ++ [quote])

def quoted (s : String) : String := String.ofList (quoteChars isPrintable s.toList)

/-- The characters of a byte string: one for each byte, with the same number. -/
def latin1 (bs : List UInt8) : String := String.ofList (bs.map fun b => Char.ofNat b.toNat)

/-- Bytes are shown as they are in the printable part of ASCII only. -/
def isPrintableByte (c : Char) : Bool := 0x20 ≤ c.toNat && c.toNat < 0x7F

/-- A byte string between quotes, marked as one. -/
def quotedBytes (bs : List UInt8) : String :=
  "b" ++ String.ofList (quoteChars isPrintableByte (latin1 bs).toList)

/-- A buffer between quotes, marked as one. In it every single quote is escaped,
also between double quotes. -/
def quotedBuffer (bs : List UInt8) : String :=
  let cs := (latin1 bs).toList
  let quote := quoteFor cs
  let body := cs.flatMap (escapeChar '\'' isPrintableByte)
  "bytearray(b" ++ String.ofList (quote :: (body ++ [quote])) ++ ")"

end AccessLog.Text
