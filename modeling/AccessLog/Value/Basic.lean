import AccessLog.Failure
import AccessLog.Number.Binary64

/-!
# Values

A gateway hands requests and responses over as tables of loosely typed values.
`Value` is what may stand in them. `Table` is a mapping in insertion order, the
shape of a request scope, of a message and of a `table` value.
-/

namespace AccessLog

open Number (Binary64)

/-- A loosely typed value. `bytes` is fixed and `buffer` changeable, which is
why only the former may be a key; `tuple` and `list` differ in the same way. An
`object` is plain and inert: it has no content that this library can look at, and
to ask whether it is truthy, for its text or for its kind never fails. -/
inductive Value where
  | null
  | bool (b : Bool)
  | int (n : Int)
  | float (x : Binary64)
  | text (s : String)
  | bytes (bs : List UInt8)
  | buffer (bs : List UInt8)
  | list (vs : List Value)
  | tuple (vs : List Value)
  | table (entries : List (Value × Value))
  | object (name : String)
  deriving Repr

instance : Inhabited Value := ⟨.null⟩

/-! ## Identity of values as data -/

namespace Value

mutual

/-- Are two values the same data? -/
def beq : Value → Value → Bool
  | .null, .null => true
  | .bool a, .bool b => a == b
  | .int a, .int b => a == b
  | .float a, .float b => a == b
  | .text a, .text b => a == b
  | .bytes a, .bytes b => a == b
  | .buffer a, .buffer b => a == b
  | .list a, .list b => beqAll a b
  | .tuple a, .tuple b => beqAll a b
  | .table a, .table b => beqEntries a b
  | .object a, .object b => a == b
  | _, _ => false

/-- Are two lists of values the same data? -/
def beqAll : List Value → List Value → Bool
  | [], [] => true
  | v :: vs, w :: ws => beq v w && beqAll vs ws
  | _, _ => false

/-- Are two lists of entries the same data? -/
def beqEntries : List (Value × Value) → List (Value × Value) → Bool
  | [], [] => true
  | (k, v) :: es, (l, w) :: fs => beq k l && (beq v w && beqEntries es fs)
  | _, _ => false

end

instance : BEq Value := ⟨beq⟩

mutual

theorem eq_of_beqValue : (v w : Value) → beq v w = true → v = w
  | .null, w, h => by cases w <;> simp_all [beq]
  | .bool a, w, h => by cases w <;> simp_all [beq]
  | .int a, w, h => by cases w <;> simp_all [beq]
  | .float a, w, h => by cases w <;> simp_all [beq]
  | .text a, w, h => by cases w <;> simp_all [beq]
  | .bytes a, w, h => by cases w <;> simp_all [beq]
  | .buffer a, w, h => by cases w <;> simp_all [beq]
  | .object a, w, h => by cases w <;> simp_all [beq]
  | .list a, .list b, h => by rw [eq_of_beqAll a b (by simpa [beq] using h)]
  | .tuple a, .tuple b, h => by rw [eq_of_beqAll a b (by simpa [beq] using h)]
  | .table a, .table b, h => by rw [eq_of_beqEntries a b (by simpa [beq] using h)]

theorem eq_of_beqAll : (vs ws : List Value) → beqAll vs ws = true → vs = ws
  | [], [], _ => rfl
  | v :: vs, w :: ws, h => by
    simp only [beqAll, Bool.and_eq_true] at h
    rw [eq_of_beqValue v w h.1, eq_of_beqAll vs ws h.2]

theorem eq_of_beqEntries : (es fs : List (Value × Value)) → beqEntries es fs = true → es = fs
  | [], [], _ => rfl
  | (k, v) :: es, (l, w) :: fs, h => by
    simp only [beqEntries, Bool.and_eq_true] at h
    rw [eq_of_beqValue k l h.1, eq_of_beqValue v w h.2.1, eq_of_beqEntries es fs h.2.2]

end

mutual

theorem beq_self : (v : Value) → beq v v = true
  | .null => rfl
  | .bool a => by simp [beq]
  | .int a => by simp [beq]
  | .float a => by simp [beq]
  | .text a => by simp [beq]
  | .bytes a => by simp [beq]
  | .buffer a => by simp [beq]
  | .object a => by simp [beq]
  | .list a => by simp [beq, beqAll_self a]
  | .tuple a => by simp [beq, beqAll_self a]
  | .table a => by simp [beq, beqEntries_self a]

theorem beqAll_self : (vs : List Value) → beqAll vs vs = true
  | [] => rfl
  | v :: vs => by simp [beqAll, beq_self v, beqAll_self vs]

theorem beqEntries_self : (es : List (Value × Value)) → beqEntries es es = true
  | [] => rfl
  | (k, v) :: es => by simp [beqEntries, beq_self k, beq_self v, beqEntries_self es]

end

instance : LawfulBEq Value where
  eq_of_beq {v w} h := eq_of_beqValue v w h
  rfl {v} := beq_self v

instance : DecidableEq Value := instDecidableEqOfLawfulBEq

/-! ## Reading a value -/

/-- Is the value a stand-in for "yes"? Zeros, empty texts and empty collections
are not; objects always are. -/
def isTruthy : Value → Bool
  | .null => false
  | .bool b => b
  | .int n => n != 0
  | .float x => !x.isZero
  | .text s => s != ""
  | .bytes bs => !bs.isEmpty
  | .buffer bs => !bs.isEmpty
  | .list vs => !vs.isEmpty
  | .tuple vs => !vs.isEmpty
  | .table es => !es.isEmpty
  | .object _ => true

/-- The value, or another one in place of a value that is not truthy. -/
def orElse (v other : Value) : Value := if v.isTruthy then v else other

/-- The only text that is not truthy is the empty one. -/
theorem orElse_text (s : String) : (text s).orElse (text "") = text s := by
  by_cases hs : s = "" <;> simp [orElse, isTruthy, hs]

/-- A byte as an integer value. -/
def ofByte (b : UInt8) : Value := .int b.toNat

/-- The elements that iterating over the value yields: characters of a text,
numbers of a byte string, keys of a table. -/
def elements : Value → Except Fault (List Value)
  | .text s => .ok (s.toList.map fun c => .text (String.ofList [c]))
  | .bytes bs => .ok (bs.map ofByte)
  | .buffer bs => .ok (bs.map ofByte)
  | .list vs => .ok vs
  | .tuple vs => .ok vs
  | .table es => .ok (es.map Prod.fst)
  | _ => .error .unsupported

/-- What has no elements is not of a kind that has any. -/
theorem fault_of_elements {v : Value} {cause : Fault} (h : v.elements = .error cause) :
    cause = .unsupported := by
  cases v <;> cases h <;> rfl

/-- The integer that an integer or a boolean stands for. -/
def toInt? : Value → Option Int
  | .int n => some n
  | .bool b => some (if b then 1 else 0)
  | _ => none

end Value

end AccessLog
