import ParamGate.Json.Reader

/-!
# The grammar of JSON

A JSON text is a value between blanks. `Tree` is what a text says, apart from blanks and from the
ways to write a character: which numerals, texts, items and members it has, with all the members of
one name and all the digits of a number. `Spells` is the grammar, with one constructor for each
alternative of RFC 8259, and `Tree.value` is the value that a text stands for. Two things of a tree
count for readers that have limits: how deep it is, and whether an integer in it is `Overlong`.
-/

namespace ParamGate.Json

open Text

/-! ## Numerals -/

/-- Character of a digit. -/
def digitChar (d : Fin 10) : Char := Char.ofNat (48 + d.val)

/-- The number that digits denote. -/
def digitsValue (ds : List (Fin 10)) : Nat := ofDigits (ds.map Fin.val)

/-- An exponent as it is written: its letter, its sign, true for minus, and its digits. -/
structure Exponent where
  letter : Char
  sign : Option Bool
  digits : List (Fin 10)
  letter_eq : letter = 'e' ∨ letter = 'E'
  digits_ne : digits ≠ []

/-- Characters of a sign that may be left out. -/
def signChars : Option Bool → List Char
  | none => []
  | some true => ['-']
  | some false => ['+']

def Exponent.chars (e : Exponent) : List Char :=
  e.letter :: (signChars e.sign ++ e.digits.map digitChar)

def Exponent.value (e : Exponent) : Int := withSign (e.sign.getD false) (digitsValue e.digits)

/-- A number as it is written: no digit follows a zero in front. -/
structure Numeral where
  negative : Bool
  whole : List (Fin 10)
  fraction : Option (List (Fin 10))
  exponent : Option Exponent
  whole_ne : whole ≠ []
  whole_short : whole.head? = some 0 → whole = [0]
  fraction_ne : fraction ≠ some []

namespace Numeral

/-- Neither a point nor an exponent is written. -/
def IsInteger (n : Numeral) : Prop := n.fraction = none ∧ n.exponent = none

instance (n : Numeral) : Decidable n.IsInteger := inferInstanceAs (Decidable (_ ∧ _))

def exponentChars (n : Numeral) : List Char := (n.exponent.map Exponent.chars).getD []

/-- The characters after the whole part. -/
def tail (n : Numeral) : List Char :=
  match n.fraction with
  | none => n.exponentChars
  | some ds => '.' :: (ds.map digitChar ++ n.exponentChars)

def chars (n : Numeral) : List Char :=
  (if n.negative then ['-'] else []) ++ n.whole.map digitChar ++ n.tail

/-- An integer, or the floating number that is nearest. -/
def value (n : Numeral) : Value :=
  if n.IsInteger then .int (withSign n.negative (digitsValue n.whole))
  else
    let fraction := n.fraction.getD []
    .float (Binary64.ofDecimal n.negative (digitsValue (n.whole ++ fraction))
      ((n.exponent.map Exponent.value).getD 0 - fraction.length))

/-- An integer with more digits than are read. -/
def Overlong (n : Numeral) : Prop := n.IsInteger ∧ maxIntegerDigits < n.whole.length

instance (n : Numeral) : Decidable n.Overlong := inferInstanceAs (Decidable (_ ∧ _))

end Numeral

/-! ## Texts -/

/-- The code of a part of a text. -/
def Piece.code : Piece → Nat
  | .plain n => n
  | .written n => n

/-- Characters that stand for one after a backslash, which has the given code. -/
def shortEscapes : List (Char × Nat) :=
  [('"', 0x22), ('\\', 0x5C), ('/', 0x2F), ('b', 0x08), ('f', 0x0C), ('n', 0x0A), ('r', 0x0D),
    ('t', 0x09)]

/-- Ways to write one part of a text. -/
inductive SpellsPiece : Piece → List Char → Prop
  | plain {c : Char} : 0x20 ≤ c.toNat → c ≠ '"' → c ≠ '\\' → SpellsPiece (.plain c.toNat) [c]
  | short {c : Char} {n : Nat} : (c, n) ∈ shortEscapes → SpellsPiece (.plain n) ['\\', c]
  | written {a b c d : Char} {i j k l : Nat} : hexDigit? a = some i → hexDigit? b = some j →
      hexDigit? c = some k → hexDigit? d = some l →
      SpellsPiece (.written (((i * 16 + j) * 16 + k) * 16 + l)) ['\\', 'u', a, b, c, d]

/-- Ways to write a text, without its quotes. -/
inductive SpellsPieces : List Piece → List Char → Prop
  | nil : SpellsPieces [] []
  | cons {p : Piece} {ps : List Piece} {cs ds : List Char} : SpellsPiece p cs →
      SpellsPieces ps ds → SpellsPieces (p :: ps) (cs ++ ds)

/-- The codes of a text, in which the two halves of a character are joined. -/
def textCodes (pieces : List Piece) : List Nat := joinPairs (pieces.map Piece.code)

def textValue (pieces : List Piece) : Value := .ofCodes (textCodes pieces)

/-! ## Values -/

/-- What a JSON text says. -/
inductive Tree where
  | null
  | bool (b : Bool)
  | number (n : Numeral)
  | text (pieces : List Piece)
  | array (items : List Tree)
  | object (members : List (List Piece × Tree))

/-- Blanks. -/
def IsBlank (cs : List Char) : Prop := ∀ c ∈ cs, c = ' ' ∨ c = '\t' ∨ c = '\n' ∨ c = '\r'

mutual

/-- Ways to write a value. -/
inductive Spells : Tree → List Char → Prop
  | null : Spells .null ['n', 'u', 'l', 'l']
  | true : Spells (.bool true) ['t', 'r', 'u', 'e']
  | false : Spells (.bool false) ['f', 'a', 'l', 's', 'e']
  | number (n : Numeral) : Spells (.number n) n.chars
  | text {ps : List Piece} {cs : List Char} : SpellsPieces ps cs →
      Spells (.text ps) ('"' :: cs ++ ['"'])
  | emptyArray {b : List Char} : IsBlank b → Spells (.array []) ('[' :: b ++ [']'])
  | array {items : List Tree} {cs : List Char} : SpellsItems items cs →
      Spells (.array items) ('[' :: cs ++ [']'])
  | emptyObject {b : List Char} : IsBlank b → Spells (.object []) ('{' :: b ++ ['}'])
  | object {members : List (List Piece × Tree)} {cs : List Char} : SpellsMembers members cs →
      Spells (.object members) ('{' :: cs ++ ['}'])

/-- A value between blanks. -/
inductive Padded : Tree → List Char → Prop
  | mk {t : Tree} {b cs b' : List Char} : IsBlank b → Spells t cs → IsBlank b' →
      Padded t (b ++ cs ++ b')

/-- Items between commas. -/
inductive SpellsItems : List Tree → List Char → Prop
  | last {t : Tree} {cs : List Char} : Padded t cs → SpellsItems [t] cs
  | cons {t : Tree} {items : List Tree} {cs ds : List Char} : Padded t cs →
      SpellsItems items ds → SpellsItems (t :: items) (cs ++ ',' :: ds)

/-- A name, a colon and a value. -/
inductive SpellsMember : List Piece × Tree → List Char → Prop
  | mk {name : List Piece} {t : Tree} {b ns b' cs : List Char} : IsBlank b →
      SpellsPieces name ns → IsBlank b' → Padded t cs →
      SpellsMember (name, t) (b ++ '"' :: ns ++ '"' :: b' ++ ':' :: cs)

/-- Members between commas. -/
inductive SpellsMembers : List (List Piece × Tree) → List Char → Prop
  | last {m : List Piece × Tree} {cs : List Char} : SpellsMember m cs → SpellsMembers [m] cs
  | cons {m : List Piece × Tree} {members : List (List Piece × Tree)} {cs ds : List Char} :
      SpellsMember m cs → SpellsMembers members ds →
      SpellsMembers (m :: members) (cs ++ ',' :: ds)

end

namespace Tree

mutual

/-- The value that a text stands for. Of members of one name the last counts. -/
def value : Tree → Value
  | .null => .null
  | .bool b => .bool b
  | .number n => n.value
  | .text pieces => textValue pieces
  | .array items => .list (itemValues items)
  | .object members => .map (Table.ofList (memberValues members))

def itemValues : List Tree → List Value
  | [] => []
  | t :: items => t.value :: itemValues items

def memberValues : List (List Piece × Tree) → List (Value × Value)
  | [] => []
  | (name, t) :: members => (textValue name, t.value) :: memberValues members

end

mutual

/-- How many containers stand in each other. -/
def depth : Tree → Nat
  | .array items => itemsDepth items + 1
  | .object members => membersDepth members + 1
  | _ => 0

def itemsDepth : List Tree → Nat
  | [] => 0
  | t :: items => max t.depth (itemsDepth items)

def membersDepth : List (List Piece × Tree) → Nat
  | [] => 0
  | (_, t) :: members => max t.depth (membersDepth members)

end

/-- Trees with an integer in them that has more digits than are read. -/
inductive Overlong : Tree → Prop
  | number {n : Numeral} : n.Overlong → Overlong (.number n)
  | item {items : List Tree} {t : Tree} : t ∈ items → Overlong t → Overlong (.array items)
  | member {members : List (List Piece × Tree)} {m : List Piece × Tree} : m ∈ members →
      Overlong m.2 → Overlong (.object members)

end Tree

end ParamGate.Json
