import AccessLog.Text.Quoted

/-!
# Locations of redirects

A redirect names the address that the client should ask for instead. In it every
byte that an address may not hold is written as a percent sign and two
hexadecimal digits, and so are the marks in a path at which the query or the
fragment would begin.
-/

namespace AccessLog.Demo

/-- The characters of an address, besides letters and digits. -/
def addressMarks : List Char := "_.-~:/%#?=@[]!$&'()*+,;".toList

/-- May the byte stand in an address as it is? -/
def isAddressByte (b : UInt8) : Bool :=
  let c := Char.ofNat b.toNat
  b.toNat < 0x80 && (c.isAlphanum || addressMarks.contains c)

/-- A byte as a percent sign and two hexadecimal digits. -/
def percentEncode (b : UInt8) : List Char :=
  '%' :: (Text.hexDigits 2 b.toNat).map Char.toUpper

def utf8 (s : String) : List UInt8 := s.toUTF8.toList

/-- A text as an address. -/
def address (s : String) : String :=
  String.ofList ((utf8 s).flatMap fun b =>
    if isAddressByte b then [Char.ofNat b.toNat] else percentEncode b)

/-- A path as a part of an address: it begins with a slash, and goes on to its
end. -/
def pathPart (path : String) : String :=
  let cs := path.toList.flatMap fun c =>
    if c = '?' ∨ c = '#' then percentEncode c.toNat.toUInt8 else [c]
  String.ofList (if cs.head? = some '/' then cs else '/' :: cs)

def location (host path query : String) : String :=
  address ("http://" ++ host ++ pathPart path ++ (if query = "" then "" else "?" ++ query))

end AccessLog.Demo
