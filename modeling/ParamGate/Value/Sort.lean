import ParamGate.Value.Order

/-!
# Sorting values

A stable sort by a comparison that may have a fault, and lists of texts made of values. The first
items that are in order already, or strictly in reverse order, are taken as they are. Every item
after them is put in its place by halving, so few comparisons are made, and which of them are made
decides the fault.
-/

namespace ParamGate

/-- The items that follow `last` as long as each goes on from the one before it, and the rest. -/
def takeRun {α : Type} (goesOn : α → α → Except Fault Bool) (last : α) :
    List α → Except Fault (List α × List α)
  | [] => .ok ([], [])
  | x :: xs => do
      if ← goesOn x last then
        let (run, rest) ← takeRun goesOn x xs
        .ok (x :: run, rest)
      else .ok ([], x :: xs)

/-- The place of an item among sorted items, after those of its rank, between two places. -/
def placeOf {α : Type} (below : α → α → Except Fault Bool) (x : α) (sorted : List α)
    (low high : Nat) : Except Fault Nat :=
  if low < high then
    let middle := low + (high - low) / 2
    match sorted[middle]? with
    | none => .ok low
    | some y => do
        if ← below x y then placeOf below x sorted low middle
        else placeOf below x sorted (middle + 1) high
  else .ok low
termination_by high - low

/-- Sorted items with further items put in their places. -/
def insertAll {α : Type} (below : α → α → Except Fault Bool) (sorted : List α) :
    List α → Except Fault (List α)
  | [] => .ok sorted
  | x :: xs => do
      let place ← placeOf below x sorted 0 sorted.length
      insertAll below (sorted.take place ++ x :: sorted.drop place) xs

/-- The items sorted upwards; items of the same rank keep their order. -/
def sortUp {α : Type} (below : α → α → Except Fault Bool) : List α → Except Fault (List α)
  | x :: y :: rest => do
      if ← below y x then
        let (run, others) ← takeRun below y rest
        insertAll below (x :: y :: run).reverse others
      else
        let (run, others) ← takeRun (fun a b => (below a b).map not) y rest
        insertAll below (x :: y :: run) others
  | xs => .ok xs

namespace Value

/-- The texts of values that are to be joined; `index` is the place of the first. -/
def texts (index : Nat) : List Value → Except Fault (List Text.Codes)
  | [] => .ok []
  | v :: vs =>
      match v.codes? with
      | none => .error (.notText index v.typeName)
      | some codes => (texts (index + 1) vs).map (codes :: ·)

/-- The texts of values in their order. -/
def sortedTexts (vs : List Value) : Except Fault (List Text.Codes) := do
  let sorted ← sortUp (compare .less) vs
  texts 0 sorted

end Value

end ParamGate
