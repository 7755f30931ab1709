import ParamGate.Text.Digits
import ParamGate.Text.Utf8

/-!
# Percent encoding

A percent sign and two hexadecimal digits stand for a byte. A run of ASCII characters is read as
bytes and decoded as UTF-8, so an error in one run does not reach over a character beyond ASCII.
-/

namespace ParamGate.Text

/-- Bytes of encoded and ASCII characters; other characters as they are. -/
def percentBytes : List Char → List (Except Char UInt8)
  | [] => []
  | '%' :: a :: b :: rest =>
      match hexDigit? a, hexDigit? b with
      | some x, some y => .ok (UInt8.ofNat (16 * x + y)) :: percentBytes rest
      | _, _ => .ok 37 :: percentBytes (a :: b :: rest)
  | c :: rest =>
      (if c.toNat < 128 then .ok (UInt8.ofNat c.toNat) else .error c) :: percentBytes rest

/-- Characters of runs of bytes between characters; `run` holds the bytes of the run at hand in
reverse order. -/
def decodeRuns (run : List UInt8) : List (Except Char UInt8) → List Char
  | [] => decodeLossy run.reverse
  | .ok b :: rest => decodeRuns (b :: run) rest
  | .error c :: rest => decodeLossy run.reverse ++ c :: decodeRuns [] rest

/-- Characters of a percent-encoded text. -/
def percentDecode (cs : List Char) : List Char := decodeRuns [] (percentBytes cs)

/-- Characters of a text of a form, where a plus sign stands for a space. -/
def formDecode (cs : List Char) : List Char :=
  percentDecode (cs.map fun c => if c = '+' then ' ' else c)

end ParamGate.Text
