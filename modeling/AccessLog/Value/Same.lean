import AccessLog.Value.Basic

/-!
# Equality of values as keys

Mappings and collections compare values by meaning and not by representation:
`1`, `1.0` and `true` are one key, a byte string equals a buffer of the same
bytes, and a table equals another with the same entries in any order. No
text equals a byte string. `nan` and objects equal nothing, not even a second
mention of themselves. Only values that cannot change may be keys.
-/

namespace AccessLog.Value

open Number (Binary64)

/-- Equality of values that hold no other values. -/
def sameScalar : Value → Value → Bool
  | .null, .null => true
  | .text a, .text b => a == b
  | .bytes a, .bytes b => a == b
  | .bytes a, .buffer b => a == b
  | .buffer a, .bytes b => a == b
  | .buffer a, .buffer b => a == b
  | .float x, .float y => x.numericEq y
  | .float x, w =>
    match w.toInt? with
    | some n => x.toInt? == some n
    | none => false
  | v, .float y =>
    match v.toInt? with
    | some n => y.toInt? == some n
    | none => false
  | v, w =>
    match v.toInt?, w.toInt? with
    | some m, some n => m == n
    | _, _ => false

mutual

/-- Do two values mean the same? -/
def same : Value → Value → Bool
  | .list vs, .list ws => sameAll vs ws
  | .tuple vs, .tuple ws => sameAll vs ws
  | .table es, .table fs => es.length == fs.length && sameEntries es fs
  | v, w => sameScalar v w

def sameAll : List Value → List Value → Bool
  | [], [] => true
  | v :: vs, w :: ws => same v w && sameAll vs ws
  | _, _ => false

/-- Has each entry a partner of the same key and value? -/
def sameEntries : List (Value × Value) → List (Value × Value) → Bool
  | [], _ => true
  | (k, v) :: es, fs =>
    (match fs.find? fun f => same k f.1 with
      | some f => same v f.2
      | none => false) && sameEntries es fs

end

mutual

def isHashable : Value → Bool
  | .buffer _ => false
  | .list _ => false
  | .table _ => false
  | .tuple vs => allHashable vs
  | _ => true

def allHashable : List Value → Bool
  | [] => true
  | v :: vs => isHashable v && allHashable vs

end

/-- Is a value of the same meaning in the list? -/
def isAmong (v : Value) (vs : List Value) : Bool := vs.any (same v)

/-- Keeps the first of all values of the same meaning. -/
def distinct (vs : List Value) : List Value :=
  vs.foldl (fun kept v => if v.isAmong kept then kept else kept ++ [v]) []

/-- A text means the same as itself only. -/
theorem text_same_iff {s : String} {v : Value} : (text s).same v = true ↔ v = text s := by
  cases v with
  | text w => simp [same, sameScalar, @eq_comm _ s w]
  | _ => simp [same, sameScalar, toInt?]

/-- A text is among values when it is one of them. -/
theorem text_isAmong_iff {s : String} {vs : List Value} :
    (text s).isAmong vs = true ↔ text s ∈ vs := by
  simp [isAmong, text_same_iff]

end AccessLog.Value
