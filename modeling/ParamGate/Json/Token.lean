import ParamGate.Binary64.Shortest
import ParamGate.Value.Basic

/-!
# JSON tokens

The lexer is a machine that takes one code per step. A word is a maximal run of letters,
digits, signs and points; it must be one literal or one number as a whole. Numbers with a
fraction or an exponent are floating, the others are integers of at most 4300 digits; the words
for not-a-number and the infinities are numbers too. Texts may not hold control characters.
-/

namespace ParamGate.Json

open Text

/-- Tokens. -/
inductive Token where
  | openMap
  | closeMap
  | openList
  | closeList
  | colon
  | comma
  | text (v : Value)
  | scalar (v : Value)
deriving Inhabited

/-- Part of a text: a code as it stands, or a code that was written out. -/
inductive Piece where
  | plain (n : Nat)
  | written (n : Nat)
deriving DecidableEq

/-- The codes of the parts of a text. Two halves of a character are joined only if both were written
out. -/
def joinPieces : List Piece → List Nat
  | [] => []
  | .plain n :: rest => n :: joinPieces rest
  | .written high :: .written low :: rest =>
      if isHigh high && isLow low then joinPair high low :: joinPieces rest
      else high :: joinPieces (.written low :: rest)
  | .written n :: rest => n :: joinPieces rest

/-- Most digits of an integer. -/
def maxIntegerDigits : Nat := 4300

/-- The value of a number, given whether it has a minus sign and the characters after it. -/
def number? (negative : Bool) (cs : List Char) : Option Value :=
  let (whole, rest) := takeDigits asciiDigit? cs
  match whole with
  | [] => none
  | first :: more =>
      if first = 0 ∧ more ≠ [] then none
      else
        match rest with
        | [] =>
            if whole.length ≤ maxIntegerDigits then some (.int (withSign negative (ofDigits whole)))
            else none
        | '.' :: after =>
            match takeDigits asciiDigit? after with
            | ([], _) => none
            | (fraction, tail) => floating whole fraction tail
        | _ => floating whole [] rest
where
  /-- A number with a fraction, an exponent or both. -/
  floating (whole fraction : List Nat) (tail : List Char) : Option Value :=
    match Binary64.takeExponent asciiDigit? tail with
    | (exponent, []) =>
        some (.float (.ofDecimal negative (ofDigits (whole ++ fraction))
          (exponent - fraction.length)))
    | _ => none

/-- The value of a word. -/
def word? (cs : List Char) : Option Value :=
  match String.ofList cs with
  | "null" => some .null
  | "true" => some (.bool true)
  | "false" => some (.bool false)
  | "NaN" => some (.float (.nan 0))
  | "Infinity" => some (.float (.infinite false))
  | "-Infinity" => some (.float (.infinite true))
  | _ =>
      match cs with
      | '-' :: rest => number? true rest
      | _ => number? false cs

/-- Characters of words. -/
def isWordChar (c : Char) : Bool :=
  ('0' ≤ c && c ≤ '9') || ('a' ≤ c && c ≤ 'z') || ('A' ≤ c && c ≤ 'Z') || c == '-' || c == '+' ||
    c == '.'

/-- Blanks between tokens. -/
def isSpace (c : Char) : Bool := c == ' ' || c == '\t' || c == '\n' || c == '\r'

/-- State of the lexer: between tokens, in a word, or in a text, there after a backslash or in a
code with `left` digits to come. What was read is in reverse order. -/
inductive LexState where
  | between
  | word (seen : List Char)
  | text (seen : List Piece)
  | escape (seen : List Piece)
  | code (seen : List Piece) (left value : Nat)

/-- Tokens and state after one character, from between tokens. -/
def lexStart (c : Char) : Option (List Token × LexState) :=
  if isSpace c then some ([], .between)
  else if isWordChar c then some ([], .word [c])
  else if c = '"' then some ([], .text [])
  else if c = '[' then some ([.openList], .between)
  else if c = ']' then some ([.closeList], .between)
  else if c = '{' then some ([.openMap], .between)
  else if c = '}' then some ([.closeMap], .between)
  else if c = ':' then some ([.colon], .between)
  else if c = ',' then some ([.comma], .between)
  else none

/-- The character that a backslash and `c` stand for. -/
def escape? (c : Char) : Option Char :=
  if c = '"' ∨ c = '\\' ∨ c = '/' then some c
  else if c = 'n' then some '\n'
  else if c = 'r' then some '\r'
  else if c = 't' then some '\t'
  else if c = 'b' then some (Char.ofNat 8)
  else if c = 'f' then some (Char.ofNat 12)
  else none

/-- Tokens and state after one code of a text; `c` is its character. -/
def lexText (seen : List Piece) (n : Nat) (c : Char) : Option (List Token × LexState) :=
  if c = '"' then some ([.text (.ofCodes (joinPieces seen.reverse))], .between)
  else if c = '\\' then some ([], .escape seen)
  else if n < 32 then none
  else some ([], .text (.plain n :: seen))

/-- Tokens and state after one code. Surrogates stand in texts only. -/
def lexStep (state : LexState) (n : Nat) : Option (List Token × LexState) :=
  let c := charOf n
  match state with
  | .between => lexStart c
  | .word seen =>
      if isWordChar c then some ([], .word (c :: seen))
      else
        match word? seen.reverse, lexStart c with
        | some v, some (tokens, state) => some (.scalar v :: tokens, state)
        | _, _ => none
  | .text seen => lexText seen n c
  | .escape seen =>
      if c = 'u' then some ([], .code seen 4 0)
      else (escape? c).map fun e => ([], .text (.plain e.toNat :: seen))
  | .code seen left value =>
      (hexDigit? c).map fun d =>
        let value := 16 * value + d
        if left ≤ 1 then ([], .text (.written value :: seen)) else ([], .code seen (left - 1) value)

/-- Tokens at the end of the text. -/
def lexEnd : LexState → Option (List Token)
  | .between => some []
  | .word seen => (word? seen.reverse).map fun v => [.scalar v]
  | _ => none

/-- Tokens of codes read from a state. -/
def lexFrom (state : LexState) : List Nat → Option (List Token)
  | [] => lexEnd state
  | n :: rest => do
      let (tokens, next) ← lexStep state n
      let more ← lexFrom next rest
      some (tokens ++ more)

/-- Tokens of codes. -/
def lex (codes : List Nat) : Option (List Token) := lexFrom .between codes

end ParamGate.Json
