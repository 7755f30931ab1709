import ParamGate.Text.CaseTable
import ParamGate.Text.CasedTable
import ParamGate.Text.Class
import ParamGate.Text.Surrogate

/-!
# Upper and lower case

Case mappings of whole texts. A character may become several; the capital sigma becomes the
final sigma at the end of a word.
-/

namespace ParamGate.Text

/-- The code point that a table of runs gives for `n`, if one run covers it. -/
def mapRun? (runs : Array CaseRun) (n : Nat) : Option Nat :=
  (runs.find? fun r =>
    decide (r.first ≤ n) && decide (n ≤ r.last) && (n - r.first) % r.stride == 0).map fun r =>
      (Int.ofNat n + r.offset).toNat

/-- Mapping of one character by a table of runs and a table of expansions. -/
def mapCase (runs : Array CaseRun) (expansions : Array (Nat × List Nat)) (c : Char) : List Char :=
  match mapRun? runs c.toNat with
  | some n => [Char.ofNat n]
  | none =>
      match expansions.find? fun e => e.1 == c.toNat with
      | some e => e.2.map Char.ofNat
      | none => [c]

/-- Upper case of a text. -/
def upper (s : String) : String :=
  String.ofList (s.toList.flatMap (mapCase upperRuns upperExpansions))

/-- Upper case of a code. A surrogate has no case. -/
def upperCode (n : Nat) : Codes :=
  if isSurrogate n then [n] else codesOf (mapCase upperRuns upperExpansions (Char.ofNat n))

/-- Upper case of codes. -/
def upperCodes (ns : Codes) : Codes := ns.flatMap upperCode

/-- Whether the nearest character that is not case-ignorable has case. -/
def nextHasCase (cs : List Char) : Bool :=
  match cs.dropWhile fun c => inRanges caseIgnorableRanges c.toNat with
  | [] => false
  | c :: _ => inRanges casedRanges c.toNat

/-- Lower case of the characters `cs` after the characters `before`, which are in reverse order. -/
def lowerAfter (before : List Char) : List Char → List Char
  | [] => []
  | c :: cs =>
      let mapped :=
        if c == 'Σ' then
          [if nextHasCase before && !nextHasCase cs then 'ς' else 'σ']
        else
          mapCase lowerRuns lowerExpansions c
      mapped ++ lowerAfter (c :: before) cs

/-- Bytes with the letters of ASCII in upper case. -/
def upperBytes (bs : List UInt8) : List UInt8 :=
  bs.map fun b => if 97 ≤ b ∧ b ≤ 122 then b - 32 else b

/-- Lower case of a text. -/
def lower (s : String) : String := String.ofList (lowerAfter [] s.toList)

end ParamGate.Text
