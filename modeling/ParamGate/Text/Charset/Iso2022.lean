import ParamGate.Text.Charset.ByteTable
import ParamGate.Text.Charset.Chinese
import ParamGate.Text.Charset.Jis0213
import ParamGate.Text.Charset.Korean

/-!
# Character sets with escape sequences

In the family of ISO 2022 an escape sequence says from which set the following bytes are, and shift
bytes or single shifts choose between the sets designated so far. A member of the family is given
by the sets it admits.
-/

namespace ParamGate.Text.Charset

/-- Sets that an escape sequence can designate. The byte at its end names the set. -/
inductive Designated where
  | ascii
  /-- Its last byte, and how many bytes a character takes. -/
  | other (last width : Nat)
deriving DecidableEq

/-- A member of the family. -/
structure Escaping where
  /-- The sets that it admits, besides ASCII. -/
  sets : List (Nat × Nat)
  /-- Whether shift bytes choose between two sets. -/
  shifts : Bool
  /-- Whether a third set is reached by single shifts. -/
  thirdSet : Bool
  /-- Whether the sequence that announces a newer plane is known. -/
  updates : Bool

/-- What has been designated so far, and whether the second set is chosen. -/
structure EscapeState where
  first : Designated
  second : Designated
  third : Designated
  shifted : Bool
  /-- An unknown sequence is copied up to its end. -/
  copying : Bool

/-- The state at the start. -/
def EscapeState.start : EscapeState := ⟨.ascii, .ascii, .ascii, false, false⟩

/-- Bytes that end an escape sequence. -/
def isSequenceEnd (b : Nat) : Bool := 0x40 ≤ b && b ≤ 0x5A

/-- Most bytes of an escape sequence. -/
def maxSequence : Nat := 16

/-- The bytes of an escape sequence up to its end, after the escape byte. -/
def sequenceOf? (updates : Bool) (fuel : Nat) : List Nat → Option (List Nat)
  | [] => none
  | b :: rest =>
      match fuel with
      | 0 => none
      | fuel + 1 =>
          if isSequenceEnd b then some [b]
          else
            match updates, b, rest with
            | true, 0x26, 0x40 :: c :: d :: others =>
                (sequenceOf? updates (fuel - 2) (d :: others)).map (b :: 0x40 :: c :: ·)
            | _, _, _ => (sequenceOf? updates fuel rest).map (b :: ·)

/-- Where a sequence designates a set. -/
inductive Place where
  | first
  | second
  | third

/-- What a sequence designates, without the escape byte. In a sequence of six bytes only the last
three count. -/
def designation? (e : Escaping) : List Nat → Option (Place × Nat × Nat)
  | [0x24, last] => some (.first, last, 2)
  | [0x28, last] => some (.first, last, 1)
  | [0x29, last] => some (.second, last, 1)
  | [0x2E, last] => if e.thirdSet then some (.third, last, 1) else none
  | [0x24, 0x28, last] => some (.first, last, 2)
  | [0x24, 0x29, last] => some (.second, last, 2)
  | [_, _, 0x1B, 0x24, 0x42] => if e.updates then some (.first, 0x42, 2) else none
  | _ => none

/-- The state after a sequence, if it designates a set that is admitted. -/
def EscapeState.designate? (s : EscapeState) (e : Escaping) (bytes : List Nat) :
    Option EscapeState := do
  let (place, last, width) ← designation? e bytes
  let set ← if width = 1 ∧ last = 0x42 then some Designated.ascii
    else if e.sets.contains (last, width) then some (Designated.other last width)
    else none
  match place with
  | .first => some { s with first := set }
  | .second => some { s with second := set }
  | .third => some { s with third := set }

/-- Code of a pair of seven-bit bytes in a plane. -/
def lowPair? (p : Plane) (lead trail : Nat) : Option Nat :=
  if 0x21 ≤ lead ∧ 0x21 ≤ trail then p.code? (lead - 0x21) (trail - 0x21) else none

/-- Codes of a pair of seven-bit bytes in the first plane of JIS X 0213. -/
def lowFirst? (e : Edition) (lead trail : Nat) : Option (List Nat) :=
  if lead < 0x21 ∨ trail < 0x21 then none
  else if (lead - 0x21, trail - 0x21) = tildeCell then some [tildeCode]
  else e.firstPlane? (lead - 0x21) (trail - 0x21)

/-- Code of a pair of seven-bit bytes in the second plane of JIS X 0213. -/
def lowSecond? (lead trail : Nat) : Option Nat :=
  if lead < 0x21 ∨ trail < 0x21 then none
  else Edition.of2004.secondPlane? (lead - 0x21) (trail - 0x21)

/-- Codes of the next character of a set. -/
def Designated.read? (d : Designated) (b : Nat) (rest : List Nat) : Option (List Nat × Nat) :=
  match d, rest with
  | .ascii, _ => some (oneByte b)
  | .other 0x4A 1, _ => some (oneByte (romanCode b))
  | .other 0x49 1, _ => (katakana? (b + 0x80)).map oneByte
  | .other 0x42 2, trail :: _ => twoBytes (lowPair? jis0208 b trail)
  | .other 0x40 2, trail :: _ => twoBytes (lowPair? jis0208 b trail)
  | .other 0x44 2, trail :: _ => twoBytes (lowPair? jis0212 b trail)
  | .other 0x43 2, trail :: _ => twoBytes (lowPair? ksx1001 b trail)
  | .other 0x41 2, trail :: _ =>
      if 0x21 ≤ b ∧ 0x21 ≤ trail then twoBytes (gb2312? (b - 0x21) (trail - 0x21)) else none
  | .other 0x4F 2, trail :: _ => (lowFirst? .of2000 b trail).map (·, 1)
  | .other 0x51 2, trail :: _ => (lowFirst? .of2004 b trail).map (·, 1)
  | .other 0x50 2, trail :: _ => twoBytes (lowSecond? b trail)
  | _, _ => none

/-- Bytes that the Greek set got after it was taken into the family. -/
def newerGreek : List Nat := [0xA4, 0xA5, 0xAA]

/-- Code of a byte after a single shift: of the upper half of a European set, or in ASCII. -/
def thirdCode? (d : Designated) (b : Nat) : Option Nat :=
  match d with
  | .ascii => if b < 0x80 then some b else none
  | .other 0x41 1 => if b < 0x80 then some (b + 0x80) else none
  | .other 0x46 1 =>
      let upper := if b < 0x80 then b + 0x80 else b - 0x80
      if newerGreek.contains upper then none
      else (byteTables.lookup "iso8859_7").bind fun t => t.code? upper
  | _ => none

/-- A step in a member of the family. -/
def escapingStep (e : Escaping) : Step EscapeState := fun s b rest =>
  if s.copying then some ⟨[b], 0, { s with copying := !isSequenceEnd b }⟩
  else if b = 0x1B then
    match rest with
    | [] => none
    | c :: others =>
        if [0x28, 0x29, 0x24, 0x2E, 0x26].contains c then do
          let bytes ← sequenceOf? e.updates (maxSequence - 1) rest
          let next ← s.designate? e bytes
          some ⟨[], bytes.length, next⟩
        else if e.thirdSet ∧ c = 0x4E then
          match others with
          | [] => none
          | d :: _ => (thirdCode? s.third d).map fun n => ⟨[n], 2, s⟩
        else some ⟨[b], 0, { s with copying := true }⟩
  else if e.shifts ∧ b = 0x0F then some ⟨[], 0, { s with shifted := false }⟩
  else if e.shifts ∧ b = 0x0E then some ⟨[], 0, { s with shifted := true }⟩
  else if b = 0x0A then some ⟨[b], 0, { s with shifted := false }⟩
  else if b < 0x20 then some ⟨[b], 0, s⟩
  else if 0x80 ≤ b then none
  else
    ((if s.shifted then s.second else s.first).read? b rest).map fun r => ⟨r.1, r.2, s⟩

/-- The Japanese member. -/
def iso2022Jp : Escaping := ⟨[(0x42, 2), (0x4A, 1), (0x40, 2)], false, false, true⟩

/-- The Japanese member with a second plane. -/
def iso2022Jp1 : Escaping := ⟨(0x44, 2) :: iso2022Jp.sets, false, false, true⟩

/-- The Japanese member with the planes of its neighbours and two European sets. -/
def iso2022Jp2 : Escaping :=
  ⟨(0x43, 2) :: (0x41, 2) :: (0x41, 1) :: (0x46, 1) :: iso2022Jp1.sets, false, true, true⟩

/-- The Japanese member with both planes of the first edition of JIS X 0213. -/
def iso2022Jp3 : Escaping := ⟨[(0x42, 2), (0x4F, 2), (0x50, 2)], false, false, true⟩

/-- The Japanese member with both planes of the second edition of JIS X 0213. -/
def iso2022Jp2004 : Escaping := ⟨[(0x42, 2), (0x51, 2), (0x50, 2)], false, false, true⟩

/-- The Japanese member with one-byte katakana. -/
def iso2022JpExt : Escaping := ⟨(0x49, 1) :: iso2022Jp1.sets, false, false, true⟩

/-- The Korean member. -/
def iso2022Kr : Escaping := ⟨[(0x43, 2)], true, false, false⟩

end ParamGate.Text.Charset
