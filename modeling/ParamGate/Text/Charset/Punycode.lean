/-!
# Punycode

Codes beyond ASCII are written behind the last hyphen of a text as a list of numbers in letters and
digits. Each number counts how many steps of code and place lie between one insertion and the next.
In names of hosts a label in this form has a mark in front.
-/

namespace ParamGate.Text.Charset

/-- How reading of a text ends. -/
inductive Decoded where
  | codes (ns : List Nat)
  /-- The bytes are not from the set. -/
  | unreadable
  /-- The set cannot be read at all, or the text is broken in a way of its own. -/
  | refused

/-- Value of a digit, without regard to case. -/
def digit36? (b : Nat) : Option Nat :=
  if 65 ≤ b ∧ b ≤ 90 then some (b - 65)
  else if 97 ≤ b ∧ b ≤ 122 then some (b - 97)
  else if 48 ≤ b ∧ b ≤ 57 then some (b - 22)
  else none

/-- The digit at a place of a number from which on the number goes on. -/
def threshold (place bias : Nat) : Nat :=
  let t := 36 * (place + 1) - bias
  if t < 1 then 1 else if 26 < t then 26 else t

/-- The number at the front and the bytes after it. -/
def takeNumber? (bias place weight value : Nat) : List Nat → Option (Nat × List Nat)
  | [] => none
  | b :: rest =>
      match digit36? b with
      | none => none
      | some digit =>
          let t := threshold place bias
          let value := value + digit * weight
          if digit < t then some (value, rest)
          else takeNumber? bias (place + 1) (weight * (36 - t)) value rest

/-- A distance scaled down for the next bias, with what was taken away; `fuel` bounds the steps. -/
def scaled (fuel delta taken : Nat) : Nat × Nat :=
  match fuel with
  | 0 => (delta, taken)
  | fuel + 1 => if 455 < delta then scaled fuel (delta / 35) (taken + 36) else (delta, taken)

/-- The bias after a distance, in a text of so many codes. -/
def nextBias (delta : Nat) (isFirst : Bool) (length : Nat) : Nat :=
  let delta := if isFirst then delta / 700 else delta / 2
  let delta := delta + delta / length
  let (delta, taken) := scaled delta.log2 delta 0
  taken + 36 * delta / (delta + 38)

/-- A text with the codes inserted that numbers tell: the next place to insert at, and the code
there. Every number takes a byte, so `fuel` need not exceed the number of bytes. -/
def insertCodes (fuel : Nat) (isFirst : Bool) (place code bias : Nat) (text bytes : List Nat) :
    Decoded :=
  match fuel, bytes with
  | _, [] => .codes text
  | 0, _ => .refused
  | fuel + 1, bytes =>
      match takeNumber? bias 0 1 0 bytes with
      | none => .refused
      | some (delta, rest) =>
          let sum := place + delta
          let count := text.length + 1
          let code := code + sum / count
          if 0x110000 ≤ code then .refused
          else
            let place := sum % count
            insertCodes fuel false (place + 1) code (nextBias delta isFirst count)
              (text.take place ++ code :: text.drop place) rest

/-- Code of the hyphen. -/
def hyphen : Nat := 45

/-- What stands before the last hyphen, and what follows it. -/
def cutLast (bytes : List Nat) : List Nat × List Nat :=
  let after := (bytes.reverse.takeWhile (· != hyphen)).reverse
  (bytes.take (bytes.length - after.length - 1), after)

/-- Codes of bytes in Punycode. -/
def punycode (bytes : List Nat) : Decoded :=
  if bytes.all fun b => decide (b < 128) then
    let (text, numbers) := cutLast bytes
    insertCodes numbers.length true 0 128 72 text numbers
  else .unreadable

/-- The mark in front of a label that is written in Punycode. -/
def labelMark : List Nat := [120, 110, 45, 45]

/-- Most bytes of a label that is written in Punycode. -/
def maxLabel : Nat := 63

/-- Codes of a label of the name of a host. A marked label has to hold more than ASCII, and it may
not be too long. -/
def hostLabel (label : List Nat) : Decoded :=
  if labelMark.isPrefixOf label then
    match punycode (label.drop labelMark.length) with
    | .codes ns =>
        if maxLabel < label.length ∨ ns.all (fun n => decide (n < 128)) then .refused else .codes ns
    | other => other
  else if label.all fun b => decide (b < 128) then .codes label
  else .unreadable

/-- Codes of labels with points between them. -/
def hostLabels : List (List Nat) → Decoded
  | [] => .codes []
  | label :: rest =>
      match hostLabel label with
      | .codes ns =>
          match hostLabels rest with
          | .codes ms => .codes (if rest.isEmpty then ns else ns ++ 46 :: ms)
          | other => other
      | other => other

end ParamGate.Text.Charset
