import ParamGate.Endpoint.Basic

/-!
# The registry of endpoints

Endpoints by path, method and version. Methods are compared in upper case, an empty method is the
one for reading, and an empty version is none. A look-up with a version falls back to the endpoint
without a version and never finds one of another version.
-/

namespace ParamGate

/-- Key of an endpoint, in normal form. -/
structure EndpointKey where
  path : Value
  method : Value
  version : Value

/-- Identity of a key. -/
def EndpointKey.id (k : EndpointKey) : Key × Key × Key :=
  (k.path.key, k.method.key, k.version.key)

/-- The method for reading, used where none is given. -/
def standardMethod : String := "GET"

/-- The key of a path, a method and a version as they are given. -/
def EndpointKey.ofValues (path method version : Value) : Except Fault EndpointKey := do
  let m ← Endpoint.upperMethod (method.orElse (.string standardMethod))
  .ok ⟨path, m, Endpoint.normalVersion version⟩

/-- A key whose parts can be looked up. -/
def EndpointKey.checked (k : EndpointKey) : Except Fault EndpointKey :=
  match k.path.unhashable?, k.version.unhashable? with
  | some type, _ => .error (.unhashable type)
  | none, some type => .error (.unhashable type)
  | none, none => .ok k

/-- Entries by key, in the order of their first registration. -/
structure Registry (α : Type) where
  entries : List (EndpointKey × α)

namespace Registry

variable {α β : Type}

/-- The registry without entries. -/
def empty : Registry α := ⟨[]⟩

/-- Number of keys that have an entry. -/
def size (r : Registry α) : Nat := r.entries.length

/-- The entry stored under a key, and under no other. -/
def get? (r : Registry α) (k : EndpointKey) : Option α :=
  (r.entries.find? fun e => e.1.id == k.id).map Prod.snd

/-- Replaces what a list of entries has under a key, or adds it at the end. -/
def putEntry (k : EndpointKey) (a : α) : List (EndpointKey × α) → List (EndpointKey × α)
  | [] => [(k, a)]
  | (l, b) :: rest => if l.id = k.id then (l, a) :: rest else (l, b) :: putEntry k a rest

/-- Stores something under a key. -/
def put (r : Registry α) (k : EndpointKey) (a : α) : Registry α := ⟨putEntry k a r.entries⟩

/-- Stores something under a path, a method and a version. -/
def register (r : Registry α) (path method version : Value) (a : α) :
    Except Fault (Registry α) := do
  let k ← EndpointKey.ofValues path method version
  let k ← k.checked
  .ok (r.put k a)

/-- The entry under the key, or else under the key without a version. -/
def find? (r : Registry α) (k : EndpointKey) : Option α :=
  match r.get? k with
  | some a => some a
  | none => if k.version.isNull then none else r.get? { k with version := .null }

/-- The entry for a path, a method and a version. -/
def lookup (r : Registry α) (path method version : Value) : Except Fault (Option α) := do
  let k ← EndpointKey.ofValues path method version
  let k ← k.checked
  .ok (r.find? k)

/-- The registry with every entry changed. -/
def map (f : α → β) (r : Registry α) : Registry β := ⟨r.entries.map fun e => (e.1, f e.2)⟩

theorem find_putEntry_self (k : EndpointKey) (a : α) (entries : List (EndpointKey × α)) :
    ((putEntry k a entries).find? fun x => x.1.id == k.id).map Prod.snd = some a := by
  induction entries with
  | nil => simp [putEntry]
  | cons x rest ih =>
      simp only [putEntry]
      split
      · rename_i h
        simp [h]
      · rename_i h
        have h' : (x.1.id == k.id) = false := by simpa using h
        simp [List.find?, h', ih]

theorem get?_put_self (r : Registry α) (k : EndpointKey) (a : α) :
    (r.put k a).get? k = some a := find_putEntry_self k a r.entries

end Registry

end ParamGate
