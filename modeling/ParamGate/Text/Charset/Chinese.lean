import ParamGate.Text.Charset.Big5Table
import ParamGate.Text.Charset.Gb18030Table
import ParamGate.Text.Charset.GbkTable
import ParamGate.Text.Charset.HkscsTable
import ParamGate.Text.Charset.Steps

/-!
# Chinese character sets

GB 2312 is a part of GBK, and GBK one of GB 18030, which has a code for every character by using
four bytes where two do not suffice. Big5 is a set of its own; one for Windows and one for Hong Kong
are made from it.
-/

namespace ParamGate.Text.Charset

/-! ## GB sets -/

/-- Number of the second byte of a pair in GBK. -/
def gbkPlace? (b : Nat) : Option Nat :=
  if 0x40 ≤ b ∧ b ≤ 0x7E then some (b - 0x40)
  else if 0x80 ≤ b ∧ b ≤ 0xFE then some (b - 0x41)
  else none

/-- Code of a pair of bytes in planes of the form of GBK. -/
def gbkPair? (planes : List Plane) (lead trail : Nat) : Option Nat := do
  let place ← gbkPlace? trail
  if lead < 0x81 then none else codeIn? planes (lead - 0x81) place

/-- Columns of a row of GB 2312 that have characters, each range with its end. -/
def gb2312Columns (row : Nat) : List (Nat × Nat) :=
  match row with
  | 0 => [(0, 94)]
  | 1 => [(16, 66), (68, 78), (80, 92)]
  | 2 => [(0, 94)]
  | 3 => [(0, 83)]
  | 4 => [(0, 86)]
  | 5 => [(0, 24), (32, 56)]
  | 6 => [(0, 33), (48, 81)]
  | 7 => [(0, 26), (36, 73)]
  | 8 => [(3, 79)]
  | 54 => [(0, 89)]
  | n => if 15 ≤ n ∧ n ≤ 86 then [(0, 94)] else []

/-- Code of a cell of GB 2312. Two signs differ from those of GBK. -/
def gb2312? (row column : Nat) : Option Nat :=
  if (gb2312Columns row).any fun r => r.1 ≤ column && column < r.2 then
    if row = 0 ∧ column = 3 then some 0x30FB
    else if row = 0 ∧ column = 9 then some 0x2015
    else gbkPair? [gbk] (row + 0xA1) (column + 0xA1)
  else none

/-- A step in GB 2312. -/
def gb2312Step (b : Nat) (rest : List Nat) : Option (List Nat × Nat) :=
  if b < 0x80 then some (oneByte b)
  else
    match rest with
    | trail :: _ =>
        if 0xA1 ≤ b ∧ 0xA1 ≤ trail then twoBytes (gb2312? (b - 0xA1) (trail - 0xA1)) else none
    | [] => none

/-- A step in GBK. -/
def gbkStep (b : Nat) (rest : List Nat) : Option (List Nat × Nat) :=
  if b < 0x80 then some (oneByte b)
  else
    match rest with
    | trail :: _ => twoBytes (gbkPair? [gbk] b trail)
    | [] => none

/-- Code of a pair that GB 18030 leaves to its users. -/
def userPair? (lead trail : Nat) : Option Nat :=
  if 0xAA ≤ lead ∧ lead ≤ 0xAF ∧ 0xA1 ≤ trail ∧ trail ≤ 0xFE then
    some (0xE000 + 94 * (lead - 0xAA) + (trail - 0xA1))
  else if 0xF8 ≤ lead ∧ lead ≤ 0xFE ∧ 0xA1 ≤ trail ∧ trail ≤ 0xFE then
    some (0xE234 + 94 * (lead - 0xF8) + (trail - 0xA1))
  else if 0xA1 ≤ lead ∧ lead ≤ 0xA7 ∧ trail ≤ 0xA0 then
    (gbkPlace? trail).map fun place => 0xE4C6 + 96 * (lead - 0xA1) + place
  else none

/-- Code of the four bytes of a number. The characters of 16 bits come first, with gaps where they
have pairs of bytes; those beyond have numbers of their own. -/
def fourByteCode? (number : Nat) : Option Nat :=
  if 189000 ≤ number then
    let code := 0x10000 + (number - 189000)
    if code < 0x110000 then some code else none
  else
    gb18030Runs.findSome? fun (first, code, length) =>
      if first ≤ number ∧ number < first + length then some (code + (number - first)) else none

/-- A step in GB 18030. -/
def gb18030Step (b : Nat) (rest : List Nat) : Option (List Nat × Nat) :=
  if b < 0x80 then some (oneByte b)
  else if b = 0x80 ∨ b = 0xFF then none
  else
    match rest with
    | [] => none
    | trail :: others =>
        if 0x30 ≤ trail ∧ trail ≤ 0x39 then
          match others with
          | c :: d :: _ =>
              if 0x81 ≤ c ∧ c ≤ 0xFE ∧ 0x30 ≤ d ∧ d ≤ 0x39 then
                (fourByteCode? ((((b - 0x81) * 10 + (trail - 0x30)) * 126 + (c - 0x81)) * 10 +
                  (d - 0x30))).map fun n => ([n], 3)
              else none
          | _ => none
        else
          twoBytes (gbkPair? [gbk, gb18030Symbols, gb18030Gap, gb18030End] b trail <|>
            userPair? b trail)

/-! ## GB 2312 in seven bits -/

/-- A step in the form of GB 2312 that uses seven bits and marks with a tilde where pairs start and
end; the state says whether pairs are read. -/
def hzStep : Step Bool := fun pairs b rest =>
  let tilde := 0x7E
  match rest with
  | [] => if b = tilde ∨ 0x80 ≤ b ∨ pairs then none else some ⟨[b], 0, pairs⟩
  | c :: _ =>
      if b = tilde then
        if pairs then (if c = 0x7D then some ⟨[], 1, false⟩ else none)
        else if c = tilde then some ⟨[tilde], 1, false⟩
        else if c = 0x7B then some ⟨[], 1, true⟩
        else if c = 10 then some ⟨[], 1, false⟩
        else none
      else if 0x80 ≤ b then none
      else if pairs then
        if 0x21 ≤ b ∧ 0x21 ≤ c then (gb2312? (b - 0x21) (c - 0x21)).map fun n => ⟨[n], 1, true⟩
        else none
      else some ⟨[b], 0, false⟩

/-! ## Big5 -/

/-- Number of the second byte of a pair in Big5. -/
def big5Place? (b : Nat) : Option Nat :=
  if 0x40 ≤ b ∧ b ≤ 0x7E then some (b - 0x40)
  else if 0xA1 ≤ b ∧ b ≤ 0xFE then some (b - 0xA1 + 63)
  else none

/-- A step in a set of the form of Big5. -/
def big5Step (planes : List Plane) (b : Nat) (rest : List Nat) : Option (List Nat × Nat) :=
  if b < 0x80 then some (oneByte b)
  else
    match rest with
    | trail :: _ =>
        match big5Place? trail with
        | some place => if b < 0xA1 then none else twoBytes (codeIn? planes (b - 0xA1) place)
        | none => none
    | [] => none

/-- The planes of the set of Windows after Big5. -/
def big5WindowsPlanes : List Plane := [big5Windows, big5WindowsEnd, big5]

/-- Pairs of bytes that have two codes in the set of Hong Kong. -/
def hkscsCombined : List ((Nat × Nat) × List Nat) :=
  [((0x88, 0x62), [0xCA, 0x304]), ((0x88, 0x64), [0xCA, 0x30C]),
   ((0x88, 0xA3), [0xEA, 0x304]), ((0x88, 0xA5), [0xEA, 0x30C])]

/-- Whether the set of Hong Kong has characters of its own in the place of those of Big5. -/
def isHkscsOnly (lead trail : Nat) : Bool :=
  (lead == 0xC6 && 0xA1 ≤ trail) || lead == 0xC7 || lead == 0xC8

/-- A step in the set of Hong Kong. -/
def big5HkscsStep (b : Nat) (rest : List Nat) : Option (List Nat × Nat) :=
  if b < 0x80 then some (oneByte b)
  else
    match rest with
    | [] => none
    | trail :: _ =>
        match hkscsCombined.lookup (b, trail), big5Place? trail with
        | some codes, _ => some (codes, 1)
        | none, none => none
        | none, some place =>
            if b < 0x87 then none
            else
              match hkscs.code? (b - 0x87) place with
              | some n => twoBytes (some n)
              | none =>
                  if isHkscsOnly b trail ∨ b < 0xA1 then none
                  else twoBytes (big5.code? (b - 0xA1) place)

end ParamGate.Text.Charset
