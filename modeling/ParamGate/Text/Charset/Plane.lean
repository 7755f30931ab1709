/-!
# Planes of characters

Large character sets arrange their characters in planes of rows and columns. A row is written as a
string in which a full stop marks a cell without a character.
-/

namespace ParamGate.Text.Charset

/-- A plane: its rows from the first one on. -/
structure Plane where
  firstRow : Nat
  rows : Array String

/-- The code in a cell of a plane. -/
def Plane.code? (p : Plane) (row column : Nat) : Option Nat := do
  let text ← if row < p.firstRow then none else p.rows[row - p.firstRow]?
  let c ← text.toList[column]?
  if c = '.' then none else some c.toNat

/-- The code that the first of several planes has in a cell. -/
def codeIn? (planes : List Plane) (row column : Nat) : Option Nat :=
  planes.findSome? fun p => p.code? row column

end ParamGate.Text.Charset
