import ParamGate.Http.Pairs
import ParamGate.Text.Case
import ParamGate.Text.Digits

/-!
# Options of a header value

The options that follow the main value of a header. An option may be given in several pieces, whose
names end in a star and the number of the piece, and a piece whose name ends in a star holds encoded
bytes. The pieces are put together by their numbers; a value with an encoded piece names a character
set and a language before it, each with an apostrophe behind it.
-/

namespace ParamGate.Http

open Text

/-- Quotes in a text that no backslash precedes. -/
def bareQuotes (afterBackslash : Bool) : List Char → Nat
  | [] => 0
  | c :: rest =>
      (if c = '"' ∧ !afterBackslash then 1 else 0) + bareQuotes (c == '\\') rest

/-- Joins neighbouring parts while a quote is open; `pending` is what was cut inside quotes. -/
def joinQuoted (pending : Option (List Char)) : List (List Char) → List (List Char)
  | [] => pending.toList
  | part :: rest =>
      let whole := match pending with
        | none => part
        | some before => before ++ ';' :: part
      if bareQuotes false whole % 2 = 0 then whole :: joinQuoted none rest
      else joinQuoted (some whole) rest

/-- Parts of a header value between the semicolons outside quotes. -/
def headerParts (cs : List Char) : List (List Char) := joinQuoted none (splitOn ';' cs)

/-- Writes `z` for every `x` that is followed by `y`. -/
def replacePairs (x y z : Char) : List Char → List Char
  | a :: b :: rest =>
      if a = x ∧ b = y then z :: replacePairs x y z rest else a :: replacePairs x y z (b :: rest)
  | cs => cs

/-- The value of an option without its quotes or angle brackets. -/
def unquoteOption (cs : List Char) : List Char :=
  match cs, cs.getLast? with
  | '"' :: c :: rest, some '"' =>
      replacePairs '\\' '"' '"' (replacePairs '\\' '\\' '\\' (c :: rest).dropLast)
  | '<' :: c :: rest, some '>' => (c :: rest).dropLast
  | _, _ => cs

/-- A piece of an option: its number, what it holds, and whether that is encoded. -/
structure OptionPiece where
  number : Option Nat
  value : List Char
  encoded : Bool
deriving DecidableEq

/-- Order of pieces: by number, then by what they hold, and encoded ones last. -/
def OptionPiece.notAbove (a b : OptionPiece) : Bool :=
  let first := a.number.getD 0
  let second := b.number.getD 0
  if first = second then
    if a.value = b.value then !a.encoded || b.encoded else decide (a.value < b.value)
  else decide (first < second)

/-- Characters of the name of an option in pieces. -/
def isOptionChar (c : Char) : Bool := c.toNat < 128 && isWord c

/-- The name of the option that a name of a piece belongs to, with the digits of the piece. -/
def pieceName? (name : List Char) : Option (List Char × List Char) :=
  match name.takeWhile isOptionChar, name.dropWhile isOptionChar with
  | c :: base, '*' :: rest =>
      let digits := rest.takeWhile fun d => (asciiDigit? d).isSome
      match digits, rest.drop digits.length with
      | _, [] => some (c :: base, digits)
      | _ :: _, ['*'] => some (c :: base, digits)
      | _, _ => none
  | _, _ => none

/-- Most digits of the number of a piece. -/
def maxPieceDigits : Nat := 4300

/-- Characters with every percent sign and the two hexadecimal digits after it replaced by the
character of that code. -/
def unescapePercent : List Char → List Char
  | '%' :: a :: b :: rest =>
      match hexDigit? a, hexDigit? b with
      | some x, some y => Char.ofNat (16 * x + y) :: unescapePercent rest
      | _, _ => '%' :: unescapePercent (a :: b :: rest)
  | c :: rest => c :: unescapePercent rest
  | [] => []

/-- What follows the second apostrophe, or the whole text if there are fewer. -/
def withoutLanguage (cs : List Char) : List Char :=
  match cut '\'' cs with
  | (_, none) => cs
  | (_, some rest) =>
      match cut '\'' rest with
      | (_, none) => cs
      | (_, some value) => value

/-- The value of an option in pieces. Pieces with and without a number do not go together. -/
def joinOptionPieces (pieces : List OptionPiece) : Option (List Char) :=
  if pieces.all (·.number.isSome) || pieces.all (·.number.isNone) then
    let sorted := pieces.mergeSort OptionPiece.notAbove
    let whole := sorted.flatMap fun p => if p.encoded then unescapePercent p.value else p.value
    some (if pieces.any (·.encoded) then withoutLanguage whole else whole)
  else none

/-- An option as it stands: its name and its value. -/
def rawOption (part : List Char) : List Char × List Char :=
  match cut '=' part with
  | (name, some value) =>
      ((lower (trim (String.ofList name))).toList, unquoteOption (trimBy isBlank value))
  | (name, none) => (trimBy isBlank name, [])

/-- Options read so far: those that stand as a whole, and the pieces of the others by name. -/
structure OptionTable where
  whole : List (List Char × List Char)
  pieces : List (List Char × List OptionPiece)

/-- A piece more under a name. -/
def addPiece (name : List Char) (p : OptionPiece) :
    List (List Char × List OptionPiece) → List (List Char × List OptionPiece)
  | [] => [(name, [p])]
  | (n, ps) :: rest => if n = name then (n, ps ++ [p]) :: rest else (n, ps) :: addPiece name p rest

/-- An option more, unless the number of a piece has too many digits. -/
def OptionTable.add? (t : OptionTable) (name value : List Char) : Option OptionTable :=
  match pieceName? name with
  | none => some { t with whole := t.whole ++ [(name, value)] }
  | some (base, digits) =>
      if digits.length ≤ maxPieceDigits then
        let number :=
          if digits.isEmpty then none else some (ofDigits (takeDigits asciiDigit? digits).1)
        some { t with pieces := addPiece base ⟨number, value, name.getLast? == some '*'⟩ t.pieces }
      else none

/-- The options of parts. -/
def OptionTable.ofParts? (t : OptionTable) : List (List Char) → Option OptionTable
  | [] => some t
  | part :: rest => do
      let (name, value) := rawOption part
      let next ← t.add? name value
      next.ofParts? rest

/-- The values of options in pieces. -/
def joinAllPieces : List (List Char × List OptionPiece) → Option (List (List Char × List Char))
  | [] => some []
  | (name, pieces) :: rest => do
      let value ← joinOptionPieces pieces
      let others ← joinAllPieces rest
      some ((name, value) :: others)

/-- The options that parts of a header value give; those in pieces come last. -/
def optionsOf? (parts : List (List Char)) : Option (List Pair) := do
  let table ← OptionTable.ofParts? ⟨[], []⟩ parts
  let joined ← joinAllPieces table.pieces
  some ((table.whole ++ joined).map fun o => (String.ofList o.1, String.ofList o.2))

/-- The main value and the options of a header value. Only a value without options is put in lower
case. -/
def headerOptions? (value : String) : Option (String × List Pair) :=
  if value.toList.contains ';' then
    match headerParts value.toList with
    | [] => some ("", [])
    | main :: options =>
        (optionsOf? options).map fun o => (trim (String.ofList main), o)
  else some (lower (trim value), [])

/-- The last option of a name. -/
def option? (options : List Pair) (name : String) : Option String :=
  (options.reverse.find? fun o => o.1 == name).map Prod.snd

end ParamGate.Http
