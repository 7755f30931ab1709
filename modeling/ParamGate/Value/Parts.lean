import ParamGate.Fault
import ParamGate.Value.Key

/-!
# Parts of values

Some values give other values one by one, and a value whose parts are pairs can stand for a table.
`parts` and `toTable` say which, and what is wrong with the others. A map stands for its own
entries, so `toTable` of a map loses nothing.
-/

namespace ParamGate.Value

/-- The parts of a value: the items of a list or tuple, the names of a map, the characters of a
text, the numbers of bytes. -/
def parts? : Value → Option (List Value)
  | .list items => some items
  | .tuple items => some items
  | .map entries => some (Table.keys entries)
  | .bytes bs => some (bs.map fun b => .int b.toNat)
  | v => v.codes?.map (List.map fun n => ofCodes [n])

/-- The parts of a value that has to have some. -/
def parts (v : Value) : Except Fault (List Value) :=
  match v.parts? with
  | some vs => .ok vs
  | none => .error (.notIterable v.typeName)

/-- A table with the entries that pairs give; `index` is the place of the first pair. -/
def putPairs (index : Nat) (t : Table Value) : List Value → Except Fault (Table Value)
  | [] => .ok t
  | v :: vs =>
      match v.parts? with
      | none => .error (.notPair index)
      | some [name, w] =>
          match name.unhashable? with
          | some type => .error (.unhashable type)
          | none => putPairs (index + 1) (t.put name w) vs
      | some ws => .error (.pairLength index ws.length)

/-- The table that a map or a sequence of pairs stands for. -/
def toTable : Value → Except Fault (Table Value)
  | .map entries => .ok entries
  | v => do
      let pairs ← v.parts
      putPairs 0 [] pairs

end ParamGate.Value
