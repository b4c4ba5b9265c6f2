import AccessLog.Number.Decimal

/-!
# Hosts

The host that a request is addressed to, with its port if there is one. A host
is a name, or a numeric address in square brackets: eight groups of sixteen bits
each, of which a run of zeros may be left out, or an address of a kind still to
come, marked with its version. A port is at most 65535.
-/

namespace AccessLog.Demo.Host

/-! ## Characters -/

def marks : List Char := "-._~!$&'()*+,;=".toList

/-- Does the character stand for itself in a host? -/
def isPlain (c : Char) : Bool := c.isAlphanum || marks.contains c

/-- May the character stand in a name? What follows a percent sign does not
matter. -/
def isNameChar (c : Char) : Bool := isPlain c || c == '%'

def isHexDigit (c : Char) : Bool := c.isDigit || ('a' ≤ c && c ≤ 'f') || ('A' ≤ c && c ≤ 'F')

/-- The fields between separators; there is one more than there are
separators. -/
def fields (separator : Char) : List Char → List (List Char)
  | [] => [[]]
  | c :: rest =>
    if c = separator then [] :: fields separator rest
    else
      match fields separator rest with
      | field :: more => (c :: field) :: more
      | [] => [[c]]

/-! ## Numeric addresses -/

/-- Sixteen bits: one to four hexadecimal digits. -/
def isGroup (cs : List Char) : Bool := !cs.isEmpty && cs.length ≤ 4 && cs.all isHexDigit

/-- Eight bits, in decimal digits without a needless zero. -/
def isOctet (cs : List Char) : Bool :=
  !cs.isEmpty && cs.length ≤ 3 && cs.all Char.isDigit &&
    (cs.head? != some '0' || cs.length == 1) && Number.digitsValue cs ≤ 255

/-- Thirty-two bits: four octets with points between them. -/
def isDotted (cs : List Char) : Bool :=
  let octets := fields '.' cs
  octets.length == 4 && octets.all isOctet

/-- How many groups the fields make up. The last one may be dotted, and makes up
two. -/
def groupCount? : List (List Char) → Option Nat
  | [] => some 0
  | [last] => if isGroup last then some 1 else if isDotted last then some 2 else none
  | field :: rest => if isGroup field then (groupCount? rest).map (· + 1) else none

/-- Splits at the first two colons in a row, where groups are left out. -/
def splitAtGap? : List Char → Option (List Char × List Char)
  | ':' :: ':' :: rest => some ([], rest)
  | c :: rest => (splitAtGap? rest).map fun (before, after) => (c :: before, after)
  | [] => none

/-- The fields between colons; an empty text has none. -/
def groups (cs : List Char) : List (List Char) := if cs.isEmpty then [] else fields ':' cs

/-- Eight groups, or fewer when some are left out in one place. -/
def isGrouped (cs : List Char) : Bool :=
  match splitAtGap? cs with
  | none => groupCount? (groups cs) == some 8
  | some (before, after) =>
    (groups before).all isGroup &&
      (groupCount? (groups after)).any fun n => (groups before).length + n < 8

/-- An address of a kind still to come: the version in hexadecimal digits, then a
point and the address itself. -/
def isVersioned : List Char → Bool
  | 'v' :: rest =>
    match rest.dropWhile isHexDigit with
    | '.' :: address =>
      rest.head?.any isHexDigit && !address.isEmpty && address.all fun c => isPlain c || c == ':'
    | _ => false
  | _ => false

/-! ## Hosts with ports -/

/-- What follows a host: nothing, or a colon and the digits of a port. -/
def isPortPart : List Char → Bool
  | [] => true
  | ':' :: ds => !ds.isEmpty && ds.all Char.isDigit && Number.digitsValue ds ≤ 65535
  | _ => false

/-- Is this a host, with a port if there is one? -/
def isWellFormed : List Char → Bool
  | '[' :: rest =>
    match rest.dropWhile (· != ']') with
    | _ :: tail =>
      let address := rest.takeWhile (· != ']')
      (isGrouped address || isVersioned address) && isPortPart tail
    | [] => false
  | cs =>
    let name := cs.takeWhile (· != ':')
    !name.isEmpty && name.all isNameChar && isPortPart (cs.dropWhile (· != ':'))

end AccessLog.Demo.Host
