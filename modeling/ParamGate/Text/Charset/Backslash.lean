import ParamGate.Text.Charset.Steps
import ParamGate.Text.Digits

/-!
# Backslash escapes

Latin-1 in which a backslash and a letter with hexadecimal digits stand for a code. In the full form
a backslash has further meanings; in the raw form any other backslash stands for itself.
-/

namespace ParamGate.Text.Charset

/-- The code of exactly so many hexadecimal digits at the front. -/
def hexCode? (count value : Nat) : List Nat → Option Nat
  | [] => if count = 0 then some value else none
  | b :: rest =>
      match count with
      | 0 => some value
      | count + 1 =>
          match hexDigit? (Char.ofNat b) with
          | some d => hexCode? count (16 * value + d) rest
          | none => none

/-- The code that so many hexadecimal digits give, if there is such a code. -/
def writtenCode? (count : Nat) (rest : List Nat) : Option (List Nat × Nat) :=
  match hexCode? count 0 rest with
  | some n => if n < 0x110000 then some ([n], count + 1) else none
  | none => none

/-- Up to three octal digits. -/
def octalDigits (bytes : List Nat) : List Nat :=
  (bytes.take 3).takeWhile fun b => decide (48 ≤ b) && decide (b ≤ 55)

/-- What a backslash and a letter stand for. -/
def letterEscape? (b : Nat) : Option (List Nat) :=
  if b = 10 then some []
  else if b = 92 ∨ b = 39 ∨ b = 34 then some [b]
  else if b = 98 then some [8]
  else if b = 102 then some [12]
  else if b = 116 then some [9]
  else if b = 110 then some [10]
  else if b = 114 then some [13]
  else if b = 118 then some [11]
  else if b = 97 then some [7]
  else none

/-- Code of the backslash. -/
def backslash : Nat := 92

/-- A step in the full form. Names of characters are not known. -/
def escapedStep (b : Nat) (rest : List Nat) : Option (List Nat × Nat) :=
  if b ≠ backslash then some (oneByte b)
  else
    match rest with
    | [] => none
    | c :: others =>
        match letterEscape? c with
        | some codes => some (codes, 1)
        | none =>
            match octalDigits rest with
            | d :: ds =>
                some ([(d :: ds).foldl (fun n x => 8 * n + (x - 48)) 0], (d :: ds).length)
            | [] =>
                if c = 120 then writtenCode? 2 others
                else if c = 117 then writtenCode? 4 others
                else if c = 85 then writtenCode? 8 others
                else if c = 78 then none
                else some ([b, c], 1)

/-- A step in the raw form. -/
def rawEscapedStep (b : Nat) (rest : List Nat) : Option (List Nat × Nat) :=
  if b ≠ backslash then some (oneByte b)
  else
    match rest with
    | [] => some (oneByte b)
    | c :: others =>
        if c = 117 then writtenCode? 4 others
        else if c = 85 then writtenCode? 8 others
        else some ([b, c], 1)

end ParamGate.Text.Charset
