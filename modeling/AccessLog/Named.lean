/-!
# Entries under names

Header groups, scope properties and the token map are all the same shape: each
name has one entry, and the names keep the order in which they first came.
-/

namespace AccessLog

/-- Entries under distinct names, in the order in which the names came. -/
abbrev Named (α : Type) := List (String × α)

namespace Named

variable {α : Type}

def get? : Named α → String → Option α
  | [], _ => none
  | (n, a) :: rest, name => if n = name then some a else get? rest name

/-- Changes the entry under a name in place, or adds one at the end. -/
def update (f : Option α → α) : Named α → String → Named α
  | [], name => [(name, f none)]
  | (n, a) :: rest, name =>
    if n = name then (n, f (some a)) :: rest else (n, a) :: update f rest name

def set (entries : Named α) (name : String) (a : α) : Named α :=
  entries.update (fun _ => a) name

/-- Entries set one after the other: a name that comes again keeps its place and
gets the later entry. -/
def ofEntries (entries : List (String × α)) : Named α :=
  entries.foldl (fun acc e => acc.set e.1 e.2) []

def names (entries : Named α) : List String := entries.map Prod.fst

@[simp]
theorem get?_nil (name : String) : get? ([] : Named α) name = none := rfl

/-- After an update, the updated name holds the new entry and every other name
what it held before. -/
theorem get?_update (f : Option α → α) (entries : Named α) (name other : String) :
    (entries.update f name).get? other =
      if other = name then some (f (entries.get? name)) else entries.get? other := by
  induction entries with
  | nil => simp only [update, get?, eq_comm]
  | cons e rest ih =>
    obtain ⟨n, a⟩ := e
    by_cases hn : n = name
    · subst hn
      by_cases h : other = n <;> simp [update, get?, h]; grind
    · by_cases h : other = name
      · subst h
        simp [update, get?, hn, ih]
      · by_cases ho : n = other <;> simp [update, get?, hn, h, ho, ih]

theorem get?_set (entries : Named α) (name other : String) (a : α) :
    (entries.set name a).get? other =
      if other = name then some a else entries.get? other :=
  get?_update _ _ _ _

/-- An update adds a name at the end exactly when it is new. -/
theorem names_update (f : Option α → α) (entries : Named α) (name : String) :
    (entries.update f name).names =
      if name ∈ entries.names then entries.names else entries.names ++ [name] := by
  induction entries with
  | nil => simp [update, names]
  | cons e rest ih =>
    obtain ⟨n, a⟩ := e
    by_cases hn : n = name
    · simp [update, names, hn]
    · have hne : name ≠ n := fun h => hn h.symm
      simp only [names] at ih
      simp only [update, hn, if_false, names, List.map_cons, ih, List.mem_cons, hne, false_or]
      by_cases h : name ∈ List.map Prod.fst rest <;> simp [h]

end Named

end AccessLog
