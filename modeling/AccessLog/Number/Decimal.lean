import AccessLog.Number.Binary64

/-!
# Decimal text of numbers

Integers, shortest round-trip text and text with a fixed number of places.

`shortest` looks for the fewest significant digits that read back as the same
binary64 number: on the grids of 1, 2, ... 17 digits it tests the two
neighbours of the value, and takes the nearer one on the first grid that has a
hit. `Binary64.text` spells those digits: positional while the leading digit's
place is at least `10 ^ -4` and below `10 ^ 16`, with an exponent of at least
two digits otherwise, and always with a mark that tells it from an integer.
-/

namespace AccessLog.Number

/-! ## Integers -/

/-- Decimal digits of a natural number, without leading zeros. -/
def digits (n : Nat) : List Char := Nat.toDigits 10 n

def natText (n : Nat) : String := String.ofList (digits n)

def intText (n : Int) : String :=
  if n < 0 then "-" ++ natText n.natAbs else natText n.natAbs

/-- The longest integer that is written out or read, in digits. -/
def digitLimit : Nat := 4300

/-- Decimal text of an integer of at most `digitLimit` digits. -/
def intText? (n : Int) : Option String :=
  if n.natAbs < Nat.pow 10 digitLimit then some (intText n) else none

/-! ## Fixed places -/

/-- `n` with at least `width` digits, padded with leading zeros. -/
def padded (width n : Nat) : List Char :=
  List.replicate (width - (digits n).length) '0' ++ digits n

/-- `thousandths / 1000` with three places. -/
def thousandthsText (thousandths : Nat) : String :=
  natText (thousandths / 1000) ++ "." ++ String.ofList (padded 3 (thousandths % 1000))

namespace Magnitude

/-- The value in thousandths, from its exact binary expansion, a half to
even. -/
def thousandths (x : Magnitude) : Nat := roundHalfEven (x.num * 1000) x.den

end Magnitude

namespace Binary64

/-- Text with three places. -/
def toThreePlaces : Binary64 → String
  | .nan => "nan"
  | .infinite negative => if negative then "-inf" else "inf"
  | .finite negative m =>
    (if negative then "-" else "") ++ thousandthsText m.thousandths

end Binary64

/-! ## Shortest digits -/

/-- `digits * 10 ^ exponent`. -/
structure Decimal where
  digits : Nat
  exponent : Int
  deriving Repr, DecidableEq

/-- The place of the leading decimal digit of a positive magnitude. Scaling by
`10 ^ 400` makes the integer part of every magnitude positive. -/
def leadingPlace (x : Magnitude) : Int :=
  ((digits (x.num * Nat.pow 10 400 / x.den)).length : Int) - 401

/-- The multiple of `10 ^ place` that reads back as `x` and is nearest to it,
if there is one. The numbers that read back are those within half a last place
of `x`, a quarter below the value where the spacing changes; the ends belong to
it when the significand is even. Lengths are counted in quarters of a last
place. -/
def nearestOnGrid? (x : Magnitude) (place : Int) : Option Decimal :=
  let quarter := x.exponent - 2
  let scale := Nat.pow 2 quarter.toNat * Nat.pow 10 (-place).toNat
  let unit := Nat.pow 2 (-quarter).toNat * Nat.pow 10 place.toNat
  let value := 4 * x.significand * scale
  let below := if x.significand = Nat.pow 2 52 && x.exponent != leastExponent then 1 else 2
  let low := (4 * x.significand - below) * scale
  let high := (4 * x.significand + 2) * scale
  let inside (k : Nat) : Bool :=
    if x.significand % 2 = 0 then low ≤ k * unit && k * unit ≤ high
    else low < k * unit && k * unit < high
  let floor := value / unit
  let up : Bool :=
    let toFloor := value - floor * unit
    let toNext := (floor + 1) * unit - value
    toNext < toFloor || (toNext == toFloor && floor % 2 = 1)
  match inside floor, inside (floor + 1) with
  | true, true => some ⟨if up then floor + 1 else floor, place⟩
  | true, false => some ⟨floor, place⟩
  | false, true => some ⟨floor + 1, place⟩
  | false, false => none

/-- The fewest digits that read back as the positive magnitude `x`; seventeen
always suffice. -/
def shortest (x : Magnitude) : Decimal :=
  let lead := leadingPlace x
  ((List.range 17).findSome? fun (i : Nat) => nearestOnGrid? x (lead - i)).getD ⟨0, 0⟩

/-- Drops the zeros at the end of a digit string. -/
def withoutTrailingZeros (ds : List Char) : List Char :=
  (ds.reverse.dropWhile (· == '0')).reverse

/-- Spells significant digits whose decimal point stands after the first
`point` of them. -/
def spell (ds : List Char) (point : Int) : List Char :=
  if point ≤ -4 ∨ 16 < point then
    let exponent := point - 1
    let mark := if exponent < 0 then ['e', '-'] else ['e', '+']
    let mantissa :=
      match ds with
      | d :: e :: rest => d :: '.' :: e :: rest
      | short => short
    mantissa ++ mark ++ padded 2 exponent.natAbs
  else if point ≤ 0 then
    '0' :: '.' :: (List.replicate (-point).toNat '0' ++ ds)
  else if ds.length ≤ point.toNat then
    ds ++ List.replicate (point.toNat - ds.length) '0' ++ ['.', '0']
  else
    ds.take point.toNat ++ '.' :: ds.drop point.toNat

namespace Binary64

/-- Shortest text that reads back as the same number. -/
def text : Binary64 → String
  | .nan => "nan"
  | .infinite negative => if negative then "-inf" else "inf"
  | .finite negative m =>
    let sign := if negative then "-" else ""
    if m.significand = 0 then sign ++ "0.0"
    else
      let d := shortest m
      let ds := digits d.digits
      sign ++ String.ofList (spell (withoutTrailingZeros ds) (ds.length + d.exponent))

end Binary64

/-! ## Reading -/

def digitsValue (ds : List Char) : Nat :=
  ds.foldl (fun n c => 10 * n + (c.toNat - '0'.toNat)) 0

/-- A number split into sign, integer part, fraction and exponent. -/
structure Numeral where
  negative : Bool
  whole : List Char
  fraction : List Char
  exponent : Int
  deriving Repr, DecidableEq

namespace Numeral

/-- The number that the numeral denotes, rounded once. -/
def toBinary64 (n : Numeral) : Binary64 :=
  .ofDecimal n.negative (digitsValue (n.whole ++ n.fraction)) (n.exponent - n.fraction.length)

end Numeral

/-- An optional sign before a string of characters. -/
def splitSign : List Char → Bool × List Char
  | '-' :: rest => (true, rest)
  | '+' :: rest => (false, rest)
  | rest => (false, rest)

/-- Reads `±digits`, a whole string of at least one digit. -/
def readExponent? (cs : List Char) : Option Int :=
  let (negative, ds) := splitSign cs
  if ds.isEmpty || !ds.all Char.isDigit then none
  else
    let n : Int := digitsValue ds
    some (if negative then -n else n)

/-- Reads the text of a binary64 number: `nan`, `inf`, or digits with an
optional fraction and an optional exponent. -/
def Binary64.ofText? (s : String) : Option Binary64 :=
  let (negative, body) := splitSign s.toList
  if body = "nan".toList then some .nan
  else if body = "inf".toList then some (.infinite negative)
  else
    let whole := body.takeWhile Char.isDigit
    let rest := body.dropWhile Char.isDigit
    let (fraction, rest) :=
      match rest with
      | '.' :: r => (r.takeWhile Char.isDigit, r.dropWhile Char.isDigit)
      | r => ([], r)
    let exponent? :=
      match rest with
      | [] => some 0
      | 'e' :: r => readExponent? r
      | 'E' :: r => readExponent? r
      | _ => none
    if whole.isEmpty && fraction.isEmpty then none
    else exponent?.map fun exponent => (Numeral.mk negative whole fraction exponent).toBinary64

end AccessLog.Number
