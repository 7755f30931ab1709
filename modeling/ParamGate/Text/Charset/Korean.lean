import ParamGate.Text.Charset.Ksx1001Table
import ParamGate.Text.Charset.Steps
import ParamGate.Text.Surrogate

/-!
# Korean character sets

The sets around the plane KS X 1001: EUC-KR, which writes a syllable that the plane lacks as its
letters, the set of Windows, which has those syllables in the pairs that are free, and Johab, which
writes every syllable as the numbers of its letters.
-/

namespace ParamGate.Text.Charset

/-- Code of the first syllable. -/
def firstSyllable : Nat := 0xAC00

/-- Number of syllables. -/
def syllableCount : Nat := 11172

/-- Code of the syllable of three letters, each by its number; the last letter may be none, which
has the number 0. -/
def syllable (initial medial final : Nat) : Nat :=
  firstSyllable + (initial * 21 + medial) * 28 + final

/-- Code of two bytes with the eighth bit in the plane. -/
def korean? (lead trail : Nat) : Option Nat :=
  if 0xA1 ≤ lead ∧ 0xA1 ≤ trail then ksx1001.code? (lead - 0xA1) (trail - 0xA1) else none

/-- The place of a number in a list. -/
def placeIn? (numbers : List Nat) (n : Nat) : Option Nat :=
  if numbers.contains n then some (numbers.idxOf n) else none

/-- Row of the plane that holds single letters, as its byte. -/
def letterByte : Nat := 0xA4

/-- Second byte of the sign for a letter that is not there. -/
def fillerByte : Nat := 0xD4

/-- Places of the letters that may start a syllable among all letters. -/
def initialPlaces : List Nat :=
  [0, 1, 3, 6, 7, 8, 16, 17, 18, 20, 21, 22, 23, 24, 25, 26, 27, 28, 29]

/-- Places of the letters that may end a syllable among all letters. -/
def finalPlaces : List Nat :=
  [0, 1, 2, 3, 4, 5, 6, 8, 9, 10, 11, 12, 13, 14, 15, 16, 17, 19, 20, 21, 22, 23, 25, 26, 27, 28,
    29]

/-- Code of the syllable of three letters, given by their second bytes. -/
def spelled? (initial medial final : Nat) : Option Nat := do
  let i ← if initial < 0xA1 then none else placeIn? initialPlaces (initial - 0xA1)
  let m ← if 0xBF ≤ medial ∧ medial ≤ 0xD3 then some (medial - 0xBF) else none
  let f ← if final = fillerByte then some 0
    else if final < 0xA1 then none
    else (placeIn? finalPlaces (final - 0xA1)).map (· + 1)
  some (syllable i m f)

/-- A step in EUC-KR. -/
def eucKrStep (b : Nat) (rest : List Nat) : Option (List Nat × Nat) :=
  if b < 0x80 then some (oneByte b)
  else
    match rest with
    | [] => none
    | trail :: others =>
        if b = letterByte ∧ trail = fillerByte then
          match others with
          | x :: initial :: y :: medial :: z :: final :: _ =>
              if x = letterByte ∧ y = letterByte ∧ z = letterByte then
                (spelled? initial medial final).map fun n => ([n], 7)
              else none
          | _ => none
        else twoBytes (korean? b trail)

/-- Codes of the syllables that the plane lacks, in order. -/
def lackingSyllables : Array Nat :=
  let present := ksx1001.rows.toList.flatMap fun row =>
    (codesOf row.toList).filter fun n => firstSyllable ≤ n && n < firstSyllable + syllableCount
  ((List.range syllableCount).map (firstSyllable + ·)).foldl
    (fun (acc : List Nat × Array Nat) n =>
      match acc.1 with
      | p :: ps => if p = n then (ps, acc.2) else (p :: ps, acc.2.push n)
      | [] => ([], acc.2.push n))
    (present, #[]) |>.2

/-- Number of the second byte among the pairs that the plane leaves free. -/
def freePlace? (b : Nat) : Option Nat :=
  if 0x41 ≤ b ∧ b ≤ 0x5A then some (b - 0x41)
  else if 0x61 ≤ b ∧ b ≤ 0x7A then some (b - 0x61 + 26)
  else if 0x81 ≤ b ∧ b ≤ 0xFE then some (b - 0x81 + 52)
  else none

/-- Code of a pair that the plane leaves free: it counts the syllables that the plane lacks. Behind
the first 32 first bytes a first byte has fewer such pairs. -/
def freePair? (lead trail : Nat) : Option Nat := do
  let place ← freePlace? trail
  if lead < 0x81 then none
  else if lead ≤ 0xA0 then lackingSyllables[178 * (lead - 0x81) + place]?
  else if lead ≤ 0xC6 ∧ place < 84 then lackingSyllables[178 * 32 + 84 * (lead - 0xA1) + place]?
  else none

/-- A step in the Korean set of Windows. -/
def windowsKoreanStep (b : Nat) (rest : List Nat) : Option (List Nat × Nat) :=
  if b < 0x80 then some (oneByte b)
  else
    match rest with
    | [] => none
    | trail :: _ => twoBytes (korean? b trail <|> freePair? b trail)

/-! ## Johab -/

/-- What five bits of a pair say about a letter of a syllable. -/
inductive LetterBits where
  /-- There is no such letter. -/
  | empty
  | letter (n : Nat)

/-- The first letter of five bits. -/
def initialBits? (bits : Nat) : Option LetterBits :=
  if bits = 1 then some .empty
  else if 2 ≤ bits ∧ bits ≤ 20 then some (.letter (bits - 2))
  else none

/-- The second letter of five bits. -/
def medialBits? (bits : Nat) : Option LetterBits :=
  if bits = 2 then some .empty
  else if 3 ≤ bits ∧ bits ≤ 7 then some (.letter (bits - 3))
  else if 10 ≤ bits ∧ bits ≤ 15 then some (.letter (bits - 5))
  else if 18 ≤ bits ∧ bits ≤ 23 then some (.letter (bits - 7))
  else if 26 ≤ bits ∧ bits ≤ 29 then some (.letter (bits - 9))
  else none

/-- The last letter of five bits. -/
def finalBits? (bits : Nat) : Option LetterBits :=
  if bits = 1 then some .empty
  else if 2 ≤ bits ∧ bits ≤ 17 then some (.letter (bits - 1))
  else if 19 ≤ bits ∧ bits ≤ 29 then some (.letter (bits - 2))
  else none

/-- Code of the letter that all others are counted from. -/
def firstLetter : Nat := 0x3131

/-- Code of the first of the letters that stand inside syllables. -/
def firstMedial : Nat := 0x314F

/-- Code of what three letters make: a syllable, one letter, or a blank. -/
def composed? : LetterBits → LetterBits → LetterBits → Option Nat
  | .letter i, .letter m, .letter f => some (syllable i m f)
  | .letter i, .letter m, .empty => some (syllable i m 0)
  | .letter i, .empty, .empty => initialPlaces[i]?.map (firstLetter + ·)
  | .empty, .letter m, .empty => some (firstMedial + m)
  | .empty, .empty, .letter f => finalPlaces[f - 1]?.map (firstLetter + ·)
  | .empty, .empty, .empty => some 0x3000
  | _, _, _ => none

/-- Code of a pair of bytes that does not stand for letters; two rows of the plane share a first
byte. -/
def johabSign? (lead trail : Nat) : Option Nat :=
  if lead = 0xDF ∨ 0xF9 < lead ∨ trail < 0x31 ∨ (0x80 ≤ trail ∧ trail < 0x91) ∨ trail % 128 = 127 ∨
      (lead = 0xDA ∧ 0xA1 ≤ trail ∧ trail ≤ 0xD3) then none
  else
    let row := if lead < 0xE0 then 2 * (lead - 0xD9) else 2 * lead - 0x197
    let place := if trail < 0x91 then trail - 0x31 else trail - 0x43
    if lead < 0xD9 then none else ksx1001.code? (row + place / 94) (place % 94)

/-- A step in Johab. -/
def johabStep (b : Nat) (rest : List Nat) : Option (List Nat × Nat) :=
  if b < 0x80 then some (oneByte b)
  else
    match rest with
    | [] => none
    | trail :: _ =>
        if b < 0xD8 then
          match initialBits? (b / 4 % 32), medialBits? ((b * 8 + trail / 32) % 32),
              finalBits? (trail % 32) with
          | some i, some m, some f => twoBytes (composed? i m f)
          | _, _, _ => none
        else twoBytes (johabSign? b trail)

end ParamGate.Text.Charset
