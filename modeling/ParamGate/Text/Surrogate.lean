/-!
# Surrogates

A text is written down as a list of codes. A code is a character, or a surrogate: one half of a
character beyond 16 bits, which stands alone in a text that is not well formed. `ofCodes?` reads the
codes of a well-formed text, and `joinPairs` puts the halves of characters together. A `lossy` text
has a character in place of every surrogate.
-/

namespace ParamGate.Text

/-- Codes of a text. -/
abbrev Codes := List Nat

/-- Codes of surrogates. -/
def isSurrogate (n : Nat) : Bool := 0xD800 ≤ n && n < 0xE000

/-- Codes of first halves. -/
def isHigh (n : Nat) : Bool := 0xD800 ≤ n && n < 0xDC00

/-- Codes of second halves. -/
def isLow (n : Nat) : Bool := 0xDC00 ≤ n && n < 0xE000

/-- Code of the character of two halves. -/
def joinPair (high low : Nat) : Nat := 0x10000 + (high - 0xD800) * 0x400 + (low - 0xDC00)

/-- Codes with every pair of halves joined. -/
def joinPairs : Codes → Codes
  | [] => []
  | [n] => [n]
  | high :: low :: rest =>
      if isHigh high && isLow low then joinPair high low :: joinPairs rest
      else high :: joinPairs (low :: rest)

/-- Codes of characters. -/
def codesOf (cs : List Char) : Codes := cs.map Char.toNat

/-- Codes of a text. -/
def codes (s : String) : Codes := codesOf s.toList

/-- Characters of codes, if every code is that of a character. -/
def ofCodes? : Codes → Option (List Char)
  | [] => some []
  | n :: rest => if n.isValidChar then (ofCodes? rest).map (Char.ofNat n :: ·) else none

/-- The replacement character. -/
def replacement : Char := '\uFFFD'

/-- The character of a code; a surrogate has the replacement character. -/
def charOf (n : Nat) : Char := if isSurrogate n then replacement else Char.ofNat n

/-- The text of codes. Surrogates are replaced. -/
def lossy (ns : Codes) : String := String.ofList (ns.map charOf)

theorem isSurrogate_toNat (c : Char) : isSurrogate c.toNat = false := by
  have h := c.valid
  simp only [UInt32.isValidChar, Nat.isValidChar] at h
  simp only [isSurrogate, Bool.and_eq_false_iff, decide_eq_false_iff_not]
  change c.toNat < 0xD800 ∨ 0xDFFF < c.toNat ∧ c.toNat < 0x110000 at h
  omega

theorem charOf_toNat (c : Char) : charOf c.toNat = c := by
  rw [charOf, isSurrogate_toNat]
  exact Char.ofNat_toNat c

@[simp] theorem map_charOf_codesOf (cs : List Char) : (codesOf cs).map charOf = cs := by
  rw [codesOf, List.map_map]
  exact (List.map_congr_left fun c _ => charOf_toNat c).trans (List.map_id cs)

/-- A text is read back from its codes. -/
@[simp] theorem lossy_codes (s : String) : lossy (codes s) = s := by
  rw [lossy, codes, map_charOf_codesOf, String.ofList_toList]

theorem ofCodes?_codesOf (cs : List Char) : ofCodes? (codesOf cs) = some cs := by
  induction cs with
  | nil => rfl
  | cons c cs ih =>
      have hc : c.toNat.isValidChar := c.valid
      have h : ofCodes? (List.map Char.toNat cs) = some cs := ih
      simp only [codesOf, List.map_cons, ofCodes?, if_pos hc, h, Option.map_some, Char.ofNat_toNat]

/-- The codes of a text, and no others, are those of its characters. -/
theorem ofCodes?_eq_some_iff {ns : Codes} {cs : List Char} :
    ofCodes? ns = some cs ↔ ns = codesOf cs := by
  constructor
  · intro h
    induction ns generalizing cs with
    | nil =>
        obtain rfl := Option.some.inj h
        rfl
    | cons n ns ih =>
        rw [ofCodes?] at h
        split at h
        · rename_i hn
          obtain ⟨ds, hds, rfl⟩ := Option.map_eq_some_iff.1 h
          have hcode : (Char.ofNat n).toNat = n := by
            rw [Char.ofNat, dif_pos hn]
            rfl
          rw [ih hds, codesOf, codesOf, List.map_cons, hcode]
        · simp at h
  · rintro rfl
    exact ofCodes?_codesOf cs

end ParamGate.Text
