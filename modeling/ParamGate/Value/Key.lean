import ParamGate.Value.Basic

/-!
# Keys and tables

`Value.key` is the identity of a value inside a mapping; a not-a-number has its own, which it shares
with no number made apart from it. A `Table` is a list of entries in
insertion order; `get?` finds the entry of a key and `put` replaces it in place or appends it, so
a key keeps the position of its first entry.
-/

namespace ParamGate

/-- Identity of a value inside a mapping. -/
inductive Key where
  | null
  | nan (payload : Nat)
  | number (p : Binary64.Position)
  | text (s : String)
  | codes (ns : Text.Codes)
  | bytes (bs : List UInt8)
  | hook (h : Hook)
  | upload (u : Upload)
  | nil
  | cons (head tail : Key)
  | definition (fields : Key)
  | other (type : String)
deriving DecidableEq, Inhabited

/-- Key of a number. -/
def Key.ofBinary64 (x : Binary64) : Key :=
  match x with
  | .nan payload => .nan payload
  | x => (x.position?.map .number).getD (.nan 0)

/-- Keys of not-a-numbers. -/
def Key.isNaN : Key → Bool
  | .nan _ => true
  | _ => false

namespace Value

mutual

/-- Key of a value. -/
def key : Value → Key
  | .null => .null
  | .bool b => .number (.ofInt b.toNat)
  | .int n => .number (.ofInt n)
  | .float x => .ofBinary64 x
  | .string s => .text s
  | .illFormed ns => .codes ns
  | .bytes bs => .bytes bs
  | .kind k => .text k.name
  | .hook h => .hook h
  | .upload u => .upload u
  | .tuple items => keyItems items
  | .definition d => .definition (keyFields d)
  | .list _ => .other "list"
  | .map _ => .other "dict"

/-- Key of a tuple of values. -/
def keyItems : List Value → Key
  | [] => .nil
  | v :: vs => .cons (key v) (keyItems vs)

/-- Key of a declaration's fields. -/
def keyFields : ParamFields Value → Key
  | ⟨a, b, c, d, e, f, g, h, i, j⟩ =>
      .cons (key a) <| .cons (key b) <| .cons (key c) <| .cons (key d) <| .cons (key e) <|
        .cons (key f) <| .cons (key g) <| .cons (key h) <| .cons (key i) <| .cons (key j) .nil

end

mutual

/-- Type of the first part of a value that has no key. -/
def unhashable? : Value → Option String
  | .list _ => some "list"
  | .map _ => some "dict"
  | .tuple items => unhashableItems? items
  | .definition d => unhashableFields? d
  | _ => none

/-- Type of the first part without a key among several values. -/
def unhashableItems? : List Value → Option String
  | [] => none
  | v :: vs => unhashable? v <|> unhashableItems? vs

/-- Type of the first part without a key among a declaration's fields. -/
def unhashableFields? : ParamFields Value → Option String
  | ⟨a, b, c, d, e, f, g, h, i, j⟩ =>
      unhashable? a <|> unhashable? b <|> unhashable? c <|> unhashable? d <|> unhashable? e <|>
        unhashable? f <|> unhashable? g <|> unhashable? h <|> unhashable? i <|> unhashable? j

end

end Value

/-- Entries in insertion order, looked up by the key of the name. -/
abbrev Table (β : Type) := List (Value × β)

namespace Table

variable {β : Type}

/-- The value stored under a name. -/
def get? (t : Table β) (name : Value) : Option β :=
  match t with
  | [] => none
  | (n, b) :: rest => if n.key = name.key then some b else get? rest name

/-- Stores a value under a name, in the place of the entry of that name or at the end. -/
def put (t : Table β) (name : Value) (b : β) : Table β :=
  match t with
  | [] => [(name, b)]
  | (n, c) :: rest => if n.key = name.key then (n, b) :: rest else (n, c) :: put rest name b

/-- The names that have an entry. -/
def keys (t : Table β) : List Value := t.map Prod.fst

/-- A table of a list of entries; the last entry of a name gives its value. -/
def ofList (entries : List (Value × β)) : Table β :=
  entries.foldl (fun t e => put t e.1 e.2) []

theorem get?_put_of_eq (t : Table β) {a c : Value} (b : β) (h : a.key = c.key) :
    get? (put t a b) c = some b := by
  induction t with
  | nil => simp [put, get?, h]
  | cons e t ih =>
      simp only [put]
      split
      · rename_i he
        simp [get?, he, h]
      · rename_i he
        have : ¬ e.1.key = c.key := fun hc => he (hc.trans h.symm)
        simp [get?, this, ih]

theorem get?_put_of_ne (t : Table β) {a c : Value} (b : β) (h : a.key ≠ c.key) :
    get? (put t a b) c = get? t c := by
  induction t with
  | nil => simp [put, get?, h]
  | cons e t ih =>
      simp only [put]
      split
      · rename_i he
        have : ¬ e.1.key = c.key := fun hc => h (he.symm.trans hc)
        simp [get?, this]
      · simp only [get?, ih]

end Table

end ParamGate
