import AccessLog.Exchange.Location

/-!
# The client's host, kept from the start

An observer takes the client's host from the scope when an exchange begins and
keeps it for the line. As long as the scope still holds it, what the application
changes inside the host is changed in the kept one too; once another host or
another address stands in its place, the kept one stays as it is. A host that is
a text cannot change inside (`withItemAt_text`), so it is kept as it was.
-/

namespace AccessLog.Gateway

/-- The client's host as it is kept, and whether the scope still holds it. -/
structure KeptHost where
  value : Value
  isShared : Bool
  deriving Repr, DecidableEq

namespace KeptHost

/-- The entry of a scope that holds the client's address. -/
def addressKey : Value := .text "client"

def ofScope (scope : Table) : Except Fault KeptHost := do
  return ⟨← clientHost scope, (scope.get "client").isTruthy⟩

/-- Does the key lead from the client's address to the host? -/
def leadsToHost (address key : Value) : Bool :=
  match address with
  | .table _ => key.same (.int 0)
  | .list vs => key.toInt?.bind (Value.position? vs.length) == some 0
  | .tuple vs => key.toInt?.bind (Value.position? vs.length) == some 0
  | .buffer bs => key.toInt?.bind (Value.position? bs.length) == some 0
  | _ => false

/-- What is left of a path below the host, when it leads there. A path that ends
at the host or at the address leaves nothing. -/
def below? (scope : Table) : List Value → Option (List Value)
  | [] => none
  | [key] => if key = addressKey then some [] else none
  | key :: index :: rest =>
    if key = addressKey ∧ leadsToHost (scope.get "client") index then some rest else none

/-- The kept host after a value has been put at the end of a path into the
scope. -/
def afterPut (h : KeptHost) (scope : Table) (path : List Value) (v : Value) : KeptHost :=
  match h.isShared, below? scope path with
  | true, some [] => { h with isShared := false }
  | true, some rest => { h with value := (h.value.withItemAt rest v).toOption.getD h.value }
  | _, _ => h

/-- The kept host after an entry of the scope has been removed. -/
def afterRemove (h : KeptHost) (key : Value) : KeptHost :=
  { h with isShared := h.isShared && key != addressKey }

/-- Nothing can be put into a text. -/
theorem withItemAt_text (s : String) (path : List Value) (v : Value) :
    ((Value.text s).withItemAt path v).toOption = none := by
  match path with
  | [] => rfl
  | [_] => rfl
  | key :: next :: rest =>
    simp only [Value.withItemAt]
    cases Value.item (.text s) key with
    | error cause => rfl
    | ok inner =>
      cases hinner : inner.withItemAt (next :: rest) v with
      | error cause => simp [bind, Except.bind, hinner, Except.toOption]
      | ok changed =>
        simp [bind, Except.bind, hinner, Value.withInner, Value.withItem, Except.toOption]

end KeptHost

end AccessLog.Gateway
