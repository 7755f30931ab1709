import ParamGate.Text.Charset.Jis0208Table
import ParamGate.Text.Charset.Jis0208WindowsTable
import ParamGate.Text.Charset.Jis0212Table
import ParamGate.Text.Charset.Steps

/-!
# Japanese character sets

The sets that put the plane JIS X 0208 and one-byte katakana together: by shifting the rows into the
bytes that are free (Shift JIS and the set of Windows), or by the eighth bit (EUC-JP, which has the
plane JIS X 0212 too).
-/

namespace ParamGate.Text.Charset

/-- Code of a one-byte katakana. -/
def katakana? (b : Nat) : Option Nat :=
  if 0xA1 ≤ b ∧ b ≤ 0xDF then some (0xFF61 + (b - 0xA1)) else none

/-- Code of a byte in the Japanese set that has two signs in the place of those of ASCII. -/
def romanCode (b : Nat) : Nat := if b = 0x5C then 0xA5 else if b = 0x7E then 0x203E else b

/-- Number of pairs that one first byte has in Shift JIS. -/
def shiftWidth : Nat := 188

/-- Number of the second byte of a pair in Shift JIS. -/
def shiftPlace? (b : Nat) : Option Nat :=
  if 0x40 ≤ b ∧ b ≤ 0x7E then some (b - 0x40)
  else if 0x80 ≤ b ∧ b ≤ 0xFC then some (b - 0x41)
  else none

/-- Number of the first byte of a pair in Shift JIS. -/
def shiftLead? (b : Nat) : Option Nat :=
  if 0x81 ≤ b ∧ b ≤ 0x9F then some (b - 0x81)
  else if 0xE0 ≤ b ∧ b ≤ 0xFC then some (b - 0xC1)
  else none

/-- Code of a pair of bytes in Shift JIS; two rows share a first byte. -/
def shiftCode? (planes : List Plane) (lead trail : Nat) : Option Nat := do
  let place ← shiftPlace? trail
  codeIn? planes (2 * lead + place / 94) (place % 94)

/-- A step in Shift JIS. -/
def shiftJisStep (b : Nat) (rest : List Nat) : Option (List Nat × Nat) :=
  if b < 0x80 then some (oneByte b)
  else
    match katakana? b, shiftLead? b, rest with
    | some code, _, _ => some (oneByte code)
    | none, some lead, trail :: _ => twoBytes (shiftCode? [jis0208] lead trail)
    | _, _, _ => none

/-- The planes of the Japanese set of Windows. -/
def windowsPlanes : List Plane :=
  [windowsSymbols, windowsRow13, windowsSelected, windowsExtended, jis0208]

/-- First code of the pairs that the set of Windows leaves to its users. -/
def userCodes : Nat := 0xE000

/-- A step in the Japanese set of Windows. -/
def windowsJapaneseStep (b : Nat) (rest : List Nat) : Option (List Nat × Nat) :=
  if b ≤ 0x80 then some (oneByte b)
  else if b = 0xA0 then some (oneByte 0xF8F0)
  else if 0xFD ≤ b then some (oneByte (0xF8F1 + (b - 0xFD)))
  else
    match katakana? b, shiftLead? b, rest with
    | some code, _, _ => some (oneByte code)
    | none, some lead, trail :: _ =>
        if 0xF0 ≤ b ∧ b ≤ 0xF9 then
          twoBytes ((shiftPlace? trail).map fun n => userCodes + shiftWidth * (b - 0xF0) + n)
        else twoBytes (shiftCode? windowsPlanes lead trail)
    | _, _, _ => none

/-- Code of two bytes with the eighth bit in a plane. -/
def highPair? (p : Plane) (lead trail : Nat) : Option Nat :=
  if 0xA1 ≤ lead ∧ 0xA1 ≤ trail then p.code? (lead - 0xA1) (trail - 0xA1) else none

/-- A step in EUC-JP. -/
def eucJpStep (b : Nat) (rest : List Nat) : Option (List Nat × Nat) :=
  if b < 0x80 then some (oneByte b)
  else
    match rest with
    | [] => none
    | lead :: others =>
        if b = 0x8E then twoBytes (katakana? lead)
        else if b = 0x8F then
          match others with
          | trail :: _ => (highPair? jis0212 lead trail).map fun n => ([n], 2)
          | [] => none
        else twoBytes (highPair? jis0208 b lead)

end ParamGate.Text.Charset
