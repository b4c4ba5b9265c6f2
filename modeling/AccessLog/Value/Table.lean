import AccessLog.Value.Same

/-!
# Tables

A `Table` maps keys to values and remembers the order in which the keys came.
Setting a key that is present changes its value and leaves it where it is.
-/

namespace AccessLog

/-- A mapping in insertion order. -/
abbrev Table := List (Value × Value)

namespace Table

def get? : Table → String → Option Value
  | [], _ => none
  | (.text k, v) :: rest, name => if k = name then some v else get? rest name
  | _ :: rest, name => get? rest name

/-- The value under a text key, `null` when there is none. -/
def get (t : Table) (name : String) : Value := (t.get? name).getD .null

/-- The value under a text key, which has to be there. -/
def demand (t : Table) (name : String) : Except Fault Value :=
  match t.get? name with
  | some v => .ok v
  | none => .error .missingKey

/-- The value under any key. -/
def find? (t : Table) (key : Value) : Option Value :=
  (List.find? (fun e => key.same e.1) t).map Prod.snd

/-- Sets the value under a key: in place when the key is present, at the end
otherwise. -/
def set : Table → Value → Value → Table
  | [], key, v => [(key, v)]
  | (k, w) :: rest, key, v =>
    if key.same k then (k, v) :: rest else (k, w) :: set rest key v

/-- Removes a key and its value. -/
def erase (t : Table) (key : Value) : Table := t.filter fun e => !key.same e.1

/-- A table with these entries, later ones overriding earlier ones. -/
def ofEntries (entries : List (Value × Value)) : Table :=
  entries.foldl (fun t e => t.set e.1 e.2) []

/-- What is found under a text key is an entry. -/
theorem mem_of_get? {t : Table} {name : String} {v : Value} (h : t.get? name = some v) :
    (.text name, v) ∈ t := by
  induction t with
  | nil => cases h
  | cons entry rest ih =>
      obtain ⟨key, w⟩ := entry
      unfold get? at h
      split at h
      · cases h
      · rename_i heq
        obtain ⟨hentry, rfl⟩ := List.cons.inj heq
        obtain ⟨rfl, rfl⟩ := Prod.mk.inj hentry
        split at h
        · rename_i hname
          cases h
          exact hname ▸ List.mem_cons_self ..
        · exact List.mem_cons_of_mem _ (ih h)
      · rename_i heq
        obtain ⟨-, rfl⟩ := List.cons.inj heq
        exact List.mem_cons_of_mem _ (ih h)

end Table

namespace Value

/-! ## Nested access -/

/-- The position that an integer names in a sequence of this length; negative
integers count from the end. -/
def position? (length : Nat) (n : Int) : Option Nat :=
  let i := if n < 0 then n + length else n
  if 0 ≤ i ∧ i < length then some i.toNat else none

def elementAt (vs : List Value) (index : Value) : Except Fault Value :=
  match index.toInt? with
  | none => .error .unsupported
  | some n =>
    match (position? vs.length n).bind (vs[·]?) with
    | some v => .ok v
    | none => .error .missingIndex

/-- The value that a container holds under a key or at an index. -/
def item (container key : Value) : Except Fault Value :=
  match container with
  | .table es =>
    if !key.isHashable then .error .unsupported
    else
      match Table.find? es key with
      | some v => .ok v
      | none => .error .missingKey
  | .null => .error .unsupported
  | .bool _ => .error .unsupported
  | .int _ => .error .unsupported
  | .float _ => .error .unsupported
  | .object _ => .error .unsupported
  | sequence => do elementAt (← sequence.elements) key

/-- A byte that may be put into a buffer. -/
def toByte (v : Value) : Except Fault UInt8 :=
  match v.toInt? with
  | none => .error .unsupported
  | some n => if 0 ≤ n ∧ n < 256 then .ok n.toNat.toUInt8 else .error .malformed

/-- A sequence with the element at an index replaced. -/
def withElementAt {α : Type} (xs : List α) (index : Value) (x : α) : Except Fault (List α) :=
  match index.toInt? with
  | none => .error .unsupported
  | some n =>
    match position? xs.length n with
    | some i => .ok (xs.set i x)
    | none => .error .missingIndex

/-- The container with the value put under a key or at an index. -/
def withItem (container key v : Value) : Except Fault Value :=
  match container with
  | .table es =>
    if key.isHashable then .ok (.table (Table.set es key v)) else .error .unsupported
  | .list vs => do return .list (← withElementAt vs key v)
  | .buffer bs =>
    if key.toInt?.isNone then .error .unsupported
    else do return .buffer (← withElementAt bs key (← v.toByte))
  | _ => .error .unsupported

/-- The container with one that it holds changed. Even a tuple may hold
something that changes. -/
def withInner (container key inner : Value) : Except Fault Value :=
  match container with
  | .tuple vs => do return .tuple (← withElementAt vs key inner)
  | _ => container.withItem key inner

/-- The container with the value put at the end of a path of keys. -/
def withItemAt (container : Value) : List Value → Value → Except Fault Value
  | [], _ => .error .missingIndex
  | [key], v => container.withItem key v
  | key :: path, v => do
    let inner ← container.item key
    container.withInner key (← withItemAt inner path v)

end Value

end AccessLog
