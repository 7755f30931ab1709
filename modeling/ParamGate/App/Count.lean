import ParamGate.Http.Request
import ParamGate.Route.Template

/-!
# Integer arguments

Reading of an integer from the query or the path of a request. The text may have blanks around it, a
sign, leading zeros, single underscores between digits, and a fraction of zeros. A plus sign stands
before the leading zeros and a minus sign on either side of them.
-/

namespace ParamGate.Count

open Text

/-- Why an argument is not an integer. -/
inductive Problem where
  | missing
  | unreadable
  | tooLong
  | fractional
  | notFinite
  | notNumber
deriving DecidableEq

/-- Kind of a problem. -/
def Problem.type : Problem → String
  | .missing => "missing"
  | .unreadable => "int_parsing"
  | .tooLong => "int_parsing_size"
  | .fractional => "int_from_float"
  | .notFinite => "finite_number"
  | .notNumber => "int_type"

/-- Wording of a problem. -/
def Problem.message : Problem → String
  | .missing => "Field required"
  | .unreadable => "Input should be a valid integer, unable to parse string as an integer"
  | .tooLong => "Unable to parse input string as an integer, exceeded maximum size"
  | .fractional => "Input should be a valid integer, got a number with a fractional part"
  | .notFinite => "Input should be a finite number"
  | .notNumber => "Input should be a valid integer"

/-- Blanks around an argument. -/
def isSpace (c : Char) : Bool := isBlank c && !(28 ≤ c.toNat && c.toNat ≤ 31)

/-- A text without a fraction of zeros; a point alone is no fraction. -/
def withoutZeroFraction (cs : List Char) : List Char :=
  match cut '.' cs with
  | (whole, some fraction) =>
      if !fraction.isEmpty && fraction.all (· == '0') then whole else cs
  | (_, none) => cs

/-- Characters that an integer may start with behind its zeros. -/
def isStart (c : Char) : Bool := ('1' ≤ c && c ≤ '9') || c == '-'

/-- The text behind zeros, after the last of them. Underscores may stand among the zeros, a minus
sign may follow them, and the last of them stays if nothing else or a point follows. -/
def afterZeros? (last : Char) : List Char → Option (List Char)
  | [] => some [last]
  | c :: cs =>
      if c = '0' ∨ c = '_' then afterZeros? c cs
      else if c = '.' then some (last :: c :: cs)
      else if isStart c then some (c :: cs)
      else none

/-- The text behind leading zeros. -/
def withoutZeros? : List Char → Option (List Char)
  | [] => none
  | c :: cs => if c = '0' then afterZeros? c cs else if isStart c then some (c :: cs) else none

/-- The text without a plus sign at the front. -/
def withoutPlus : List Char → List Char
  | '+' :: cs => cs
  | cs => cs

/-- The text without its underscores, which may stand neither at an end nor beside each other. -/
def withoutUnderscores? (cs : List Char) : Option (List Char) :=
  let parts := splitOn '_' cs
  if parts.any List.isEmpty then none else some parts.flatten

/-- The integer of a sign and digits. -/
def signed? (cs : List Char) : Option Int :=
  let (negative, rest) := match cs with
    | '-' :: rest => (true, rest)
    | rest => (false, rest)
  match takeDigits asciiDigit? rest with
  | (d :: ds, []) => some (withSign negative (ofDigits (d :: ds)))
  | _ => none

/-- Most characters of an integer without zeros in front. -/
def maxLength : Nat := 4300

/-- The integer that an argument denotes. -/
def read (s : String) : Except Problem Int :=
  let cleaned := do
    let cs ← withoutZeros? (withoutPlus (trimBy isSpace s.toList))
    withoutUnderscores? (withoutZeroFraction cs)
  match cleaned with
  | none => .error .unreadable
  | some cs =>
      if maxLength < cs.length then .error .tooLong
      else
        match signed? cs with
        | none => .error .unreadable
        | some n => .ok n

/-- First magnitude of floating numbers that is too large for an argument. -/
def numberBound : Nat := Nat.pow 2 63

/-- The integer that a floating number denotes. -/
def ofNumber : Binary64 → Except Problem Int
  | .finite negative units =>
      let whole := units / Binary64.oneUnits
      if units % Binary64.oneUnits ≠ 0 then .error .fractional
      else if whole < numberBound then .ok (withSign negative whole)
      else .error .tooLong
  | _ => .error .notFinite

/-- The integer that an argument from the path denotes. An identifier denotes none, whatever its
digits. -/
def ofParameter (k : Route.Converter) (v : Value) : Except Problem Int :=
  match k, v with
  | .uuid, _ => .error .notNumber
  | _, .int n => .ok n
  | _, .float x => ofNumber x
  | _, v => (v.asText?.map read).getD (.error .notNumber)

/-- The last value of a name in the query. -/
def queryValue? (q : Http.Request) (name : String) : Option String :=
  (Http.valuesOf (Http.queryPairs q.query) name).getLast?

end ParamGate.Count
