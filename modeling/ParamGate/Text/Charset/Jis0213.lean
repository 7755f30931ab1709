import ParamGate.Text.Charset.Japanese
import ParamGate.Text.Charset.Jis0213Table

/-!
# Character sets with JIS X 0213

JIS X 0213 adds characters to the plane JIS X 0208 and has a second plane. Its second edition added
some more and replaced one. The planes stand in the places of Shift JIS and EUC that are left.
-/

namespace ParamGate.Text.Charset

/-- Editions of JIS X 0213, by their years. -/
inductive Edition where
  | of2000
  | of2004
deriving DecidableEq

/-- Codes of a cell of the first plane. -/
def Edition.firstPlane? (e : Edition) (row column : Nat) : Option (List Nat) :=
  if e = .of2000 ∧ jis0213Newer.contains (row, column) then none
  else
    match codeIn? [jis0208, jis0213First] row column with
    | some n => some [n]
    | none => jis0213Combined.lookup (row, column)

/-- Code of a cell of the second plane. -/
def Edition.secondPlane? (e : Edition) (row column : Nat) : Option Nat :=
  if e = .of2000 ∧ row = 92 ∧ column = 26 then some 0x9B1D
  else codeIn? [jis0213Second, jis0213SecondEnd] row column

/-- The first rows of the second plane in the order in which Shift JIS has them. -/
def secondRows : List Nat := [0, 7, 2, 3, 4, 11, 12, 13, 14]

/-- Row of the second plane that Shift JIS has at a row behind those of the first plane. -/
def secondRow (row : Nat) : Nat := (secondRows[row - 94]?).getD (row - 26)

/-- Code of the tilde. -/
def tildeCode : Nat := 0x7E

/-- The cell of the wide tilde. -/
def tildeCell : Nat × Nat := (1, 17)

/-- Cells that Shift JIS has signs of ASCII in. -/
def asciiCells : List ((Nat × Nat) × List Nat) := [((0, 31), [0x5C]), (tildeCell, [tildeCode])]

/-- Codes of a pair of bytes in Shift JIS with both planes. -/
def Edition.shiftCodes? (e : Edition) (lead trail : Nat) : Option (List Nat) := do
  let place ← shiftPlace? trail
  let row := 2 * lead + place / 94
  let column := place % 94
  if row < 94 then asciiCells.lookup (row, column) <|> e.firstPlane? row column
  else (e.secondPlane? (secondRow row) column).map ([·])

/-- A step in Shift JIS with both planes. -/
def shiftJis0213Step (e : Edition) (b : Nat) (rest : List Nat) : Option (List Nat × Nat) :=
  if b < 0x80 then some (oneByte (romanCode b))
  else
    match katakana? b, shiftLead? b, rest with
    | some code, _, _ => some (oneByte code)
    | none, some lead, trail :: _ => (e.shiftCodes? lead trail).map (·, 1)
    | _, _, _ => none

/-- A step in EUC with both planes. The second one leaves cells free for JIS X 0212. -/
def eucJis0213Step (e : Edition) (b : Nat) (rest : List Nat) : Option (List Nat × Nat) :=
  if b < 0x80 then some (oneByte b)
  else
    match rest with
    | [] => none
    | lead :: others =>
        if b = 0x8E then twoBytes (katakana? lead)
        else if lead < 0xA1 then none
        else if b = 0x8F then
          match others with
          | [] => none
          | trail :: _ =>
              if trail < 0xA1 then none
              else
                let row := lead - 0xA1
                let column := trail - 0xA1
                (e.secondPlane? row column <|> jis0212.code? row column).map fun n => ([n], 2)
        else if b < 0xA1 then none
        else (e.firstPlane? (b - 0xA1) (lead - 0xA1)).map (·, 1)

end ParamGate.Text.Charset
