import ParamGate.Text.Surrogate

/-!
# UTF-7

ASCII stands for itself except for a plus sign, behind which 16-bit units are written in digits of
six bits, up to a character that is no such digit; a hyphen there is dropped. A plus sign with a
hyphen behind it is a plus sign.
-/

namespace ParamGate.Text.Charset

/-- Value of a digit of six bits. -/
def digit64? (b : Nat) : Option Nat :=
  if 65 ≤ b ∧ b ≤ 90 then some (b - 65)
  else if 97 ≤ b ∧ b ≤ 122 then some (b - 71)
  else if 48 ≤ b ∧ b ≤ 57 then some (b + 4)
  else if b = 43 then some 62
  else if b = 47 then some 63
  else none

/-- State between two bytes: outside digits, right behind a plus sign, or inside digits with `count`
bits that are not used up and the first half of a character that waits for the other. -/
inductive Utf7State where
  | direct
  | plus
  | digits (bits count : Nat) (high : Option Nat)

/-- Codes of a unit after a first half that may be waiting, and the first half that waits then. -/
def joinUnit (high : Option Nat) (unit : Nat) : List Nat × Option Nat :=
  match high with
  | some h =>
      if isLow unit then ([joinPair h unit], none)
      else if isHigh unit then ([h], some unit)
      else ([h, unit], none)
  | none => if isHigh unit then ([], some unit) else ([unit], none)

/-- Codes and state after a digit. -/
def afterDigit (bits count : Nat) (high : Option Nat) (digit : Nat) : List Nat × Utf7State :=
  let bits := bits * 64 + digit
  let count := count + 6
  if count < 16 then ([], .digits bits count high)
  else
    let left := count - 16
    let (codes, high) := joinUnit high (bits / Nat.pow 2 left)
    (codes, .digits (bits % Nat.pow 2 left) left high)

/-- Codes and state after a byte outside digits. -/
def directByte? (b : Nat) : Option (List Nat × Utf7State) :=
  if b = 43 then some ([], .plus) else if b < 128 then some ([b], .direct) else none

/-- Codes and state after a byte. -/
def utf7Step (s : Utf7State) (b : Nat) : Option (List Nat × Utf7State) :=
  match s, digit64? b with
  | .direct, _ => directByte? b
  | .plus, some digit => some (afterDigit 0 0 none digit)
  | .plus, none => if b = 45 then some ([43], .direct) else none
  | .digits bits count high, some digit => some (afterDigit bits count high digit)
  | .digits bits count high, none =>
      if 6 ≤ count ∨ bits ≠ 0 then none
      else
        let waiting := if b < 128 then high.toList else []
        if b = 45 then some (waiting, .direct)
        else (directByte? b).map fun r => (waiting ++ r.1, r.2)

/-- Whether a text may end in a state. -/
def Utf7State.mayEnd : Utf7State → Bool
  | .direct => true
  | .plus => true
  | .digits bits count high => high.isNone && count < 6 && bits == 0

/-- Codes of bytes from a state; `seen` is in reverse order. -/
def utf7From (s : Utf7State) (seen : List Nat) : List Nat → Option (List Nat)
  | [] => if s.mayEnd then some seen.reverse else none
  | b :: rest =>
      match utf7Step s b with
      | none => none
      | some (codes, next) => utf7From next (codes.reverse ++ seen) rest

/-- Codes of bytes in UTF-7. -/
def utf7? (bytes : List Nat) : Option (List Nat) := utf7From .direct [] bytes

end ParamGate.Text.Charset
