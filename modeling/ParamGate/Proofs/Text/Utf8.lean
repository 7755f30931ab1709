import Mathlib.Tactic.IntervalCases
import ParamGate.Text.Utf8

/-!
# Encoded texts

The bytes of a text in UTF-8 are read back as its codes (`decodeCodes?_utf8Bytes`), for every text.
The encoding of bytes is detected by a mark in front or by their zeros, so a text is read back also
then if it begins with two characters of ASCII that are not the null character
(`decodeDetected?_utf8Bytes`).
-/

namespace ParamGate.Text

/-! ## One character -/

section Steps

variable {surrogates : Bool} {b : UInt8} {bs : List UInt8} {n : Nat} {o p : OpenChar}

theorem decodeFrom_lead_code (h : leadByte surrogates b.toNat = .code n) :
    decodeFrom surrogates none (b :: bs) = some n :: decodeFrom surrogates none bs := by
  rw [decodeFrom, between, h]
  rfl

theorem decodeFrom_lead_need (h : leadByte surrogates b.toNat = .need o) :
    decodeFrom surrogates none (b :: bs) = decodeFrom surrogates (some o) bs := by
  rw [decodeFrom, between, h]
  rfl

theorem decodeFrom_tail_code (h : tailByte o b.toNat = .code n) :
    decodeFrom surrogates (some o) (b :: bs) = some n :: decodeFrom surrogates none bs := by
  rw [decodeFrom, h]

theorem decodeFrom_tail_need (h : tailByte o b.toNat = .need p) :
    decodeFrom surrogates (some o) (b :: bs) = decodeFrom surrogates (some p) bs := by
  rw [decodeFrom, h]

end Steps

/-- The byte of six bits inside a code. -/
def tailOf (n : Nat) : UInt8 := UInt8.ofNat (n % 64 + 0x80)

theorem toNat_tailOf (n : Nat) : (tailOf n).toNat = n % 64 + 0x80 := by
  rw [tailOf, UInt8.toNat_ofNat']
  omega

theorem tailByte_last {bits low high n : Nat} (hlow : low ≤ n % 64 + 0x80)
    (hhigh : n % 64 + 0x80 ≤ high) :
    tailByte ⟨bits, 1, low, high⟩ (tailOf n).toNat = .code (bits * 64 + n % 64) := by
  rw [toNat_tailOf, tailByte, if_pos ⟨hlow, hhigh⟩]
  simp

theorem tailByte_more {bits missing low high n : Nat} (hmissing : 1 < missing)
    (hlow : low ≤ n % 64 + 0x80) (hhigh : n % 64 + 0x80 ≤ high) :
    tailByte ⟨bits, missing, low, high⟩ (tailOf n).toNat =
      .need ⟨bits * 64 + n % 64, missing - 1, 0x80, 0xBF⟩ := by
  rw [toNat_tailOf, tailByte, if_pos ⟨hlow, hhigh⟩]
  simp [Nat.not_le_of_lt hmissing]

/-- The first byte of three narrows the range of the second one, so that no code is written longer
than it has to be. -/
theorem leadByte_three {n : Nat} (hlow : 0x7FF < n) (hhigh : n ≤ 0xFFFF) :
    ∃ low high, leadByte true (UInt8.ofNat (n / 4096 % 16 + 0xE0)).toNat =
        .need ⟨n / 4096, 2, low, high⟩ ∧
      low ≤ n / 64 % 64 + 0x80 ∧ n / 64 % 64 + 0x80 ≤ high := by
  have hlead : ∀ q < 16, ∃ low, leadByte true (UInt8.ofNat (q % 16 + 0xE0)).toNat =
      .need ⟨q, 2, low, 0xBF⟩ ∧ (low = 0x80 ∨ q = 0 ∧ low = 0xA0) := by
    intro q hq
    interval_cases q
    · exact ⟨0xA0, rfl, Or.inr ⟨rfl, rfl⟩⟩
    all_goals exact ⟨0x80, rfl, Or.inl rfl⟩
  obtain ⟨low, hq, hcase⟩ := hlead (n / 4096) (by omega)
  exact ⟨low, 0xBF, hq, by omega, by omega⟩

/-- The first byte of four also keeps the second one below the end of the codes. -/
theorem leadByte_four {n : Nat} (hlow : 0xFFFF < n) (hhigh : n < 0x110000) :
    ∃ low high, leadByte true (UInt8.ofNat (n / 262144 % 8 + 0xF0)).toNat =
        .need ⟨n / 262144, 3, low, high⟩ ∧
      low ≤ n / 4096 % 64 + 0x80 ∧ n / 4096 % 64 + 0x80 ≤ high := by
  have hlead : ∀ q < 5, ∃ low high, leadByte true (UInt8.ofNat (q % 8 + 0xF0)).toNat =
      .need ⟨q, 3, low, high⟩ ∧ (low = 0x80 ∨ q = 0 ∧ low = 0x90) ∧
        (high = 0xBF ∨ q = 4 ∧ high = 0x8F) := by
    intro q hq
    interval_cases q
    · exact ⟨0x90, 0xBF, rfl, Or.inr ⟨rfl, rfl⟩, Or.inl rfl⟩
    · exact ⟨0x80, 0xBF, rfl, Or.inl rfl, Or.inl rfl⟩
    · exact ⟨0x80, 0xBF, rfl, Or.inl rfl, Or.inl rfl⟩
    · exact ⟨0x80, 0xBF, rfl, Or.inl rfl, Or.inl rfl⟩
    · exact ⟨0x80, 0x8F, rfl, Or.inl rfl, Or.inr ⟨rfl, rfl⟩⟩
  obtain ⟨low, high, hq, hlow', hhigh'⟩ := hlead (n / 262144) (by omega)
  exact ⟨low, high, hq, by omega, by omega⟩

/-- The bytes of a character are read as its code. -/
theorem decodeFrom_encodeChar (c : Char) (bs : List UInt8) :
    decodeFrom true none (String.utf8EncodeChar c ++ bs) =
      some c.toNat :: decodeFrom true none bs := by
  have hvalid : c.toNat < 0x110000 := by
    have h := c.valid
    simp only [UInt32.isValidChar, Nat.isValidChar] at h
    change c.toNat < 0xD800 ∨ 0xDFFF < c.toNat ∧ c.toNat < 0x110000 at h
    omega
  have hcode : c.val.toNat = c.toNat := rfl
  generalize c.toNat = n at hvalid hcode ⊢
  rw [String.utf8EncodeChar]
  simp only [hcode]
  split_ifs with hone htwo hthree
  · have hlead : leadByte true (UInt8.ofNat n).toNat = .code n := by
      rw [UInt8.toNat_ofNat', Nat.mod_eq_of_lt (by omega), leadByte, if_pos (by omega)]
    exact decodeFrom_lead_code hlead
  · have hlead : leadByte true (UInt8.ofNat (n / 64 % 32 + 0xC0)).toNat =
        .need ⟨n / 64, 1, 0x80, 0xBF⟩ := by
      rw [UInt8.toNat_ofNat', Nat.mod_eq_of_lt (by omega), leadByte, if_neg (by omega),
        if_neg (by omega), if_pos (by omega), Nat.mod_eq_of_lt (by omega), Nat.add_sub_cancel]
    have hlast : n / 64 * 64 + n % 64 = n := by omega
    rw [List.cons_append, decodeFrom_lead_need hlead, List.cons_append, ← tailOf,
      decodeFrom_tail_code (tailByte_last (by omega) (by omega)), hlast]
    rfl
  · obtain ⟨low, high, hlead, hlow, hhigh⟩ := leadByte_three (n := n) (by omega) (by omega)
    have hlast : (n / 4096 * 64 + n / 64 % 64) * 64 + n % 64 = n := by omega
    rw [List.cons_append, decodeFrom_lead_need hlead, List.cons_append, ← tailOf,
      decodeFrom_tail_need (tailByte_more (by decide) hlow hhigh), List.cons_append, ← tailOf,
      decodeFrom_tail_code (tailByte_last (by omega) (by omega)), hlast]
    rfl
  · obtain ⟨low, high, hlead, hlow, hhigh⟩ := leadByte_four (n := n) (by omega) hvalid
    have hlast :
        ((n / 262144 * 64 + n / 4096 % 64) * 64 + n / 64 % 64) * 64 + n % 64 = n := by omega
    rw [List.cons_append, decodeFrom_lead_need hlead, List.cons_append, ← tailOf,
      decodeFrom_tail_need (tailByte_more (by decide) hlow hhigh), List.cons_append, ← tailOf,
      decodeFrom_tail_need (tailByte_more (by decide) (by omega) (by omega)), List.cons_append,
      ← tailOf, decodeFrom_tail_code (tailByte_last (by omega) (by omega)), hlast]
    rfl

/-! ## Whole texts -/

/-- The bytes of characters. -/
def utf8Bytes (cs : List Char) : List UInt8 := cs.flatMap String.utf8EncodeChar

theorem decodeFrom_utf8Bytes (cs : List Char) :
    decodeFrom true none (utf8Bytes cs) = (codesOf cs).map some := by
  induction cs with
  | nil => rfl
  | cons c cs ih =>
      have hrest : decodeFrom true none (cs.flatMap String.utf8EncodeChar) = (codesOf cs).map some :=
        ih
      rw [utf8Bytes, List.flatMap_cons, decodeFrom_encodeChar, hrest]
      rfl

theorem complete?_map_some {α : Type} (items : List α) : complete? (items.map some) = some items := by
  induction items with
  | nil => rfl
  | cons x items ih =>
      rw [complete?] at ih ⊢
      simp [ih]

/-- The codes of a text are read back from its bytes. -/
theorem decodeCodes?_utf8Bytes (cs : List Char) :
    decodeCodes? true (utf8Bytes cs) = some (codesOf cs) := by
  rw [decodeCodes?, decodeFrom_utf8Bytes, complete?_map_some]

/-- Listing an array of bytes from a place on. -/
theorem byteList_loop (bs : ByteArray) (place : Nat) (seen : List UInt8) :
    ByteArray.toList.loop bs place seen = seen.reverse ++ bs.data.toList.drop place := by
  induction place, seen using ByteArray.toList.loop.induct bs with
  | case1 place seen hlt ih =>
      have hplace : place < bs.data.toList.length := by simpa using hlt
      have hbyte : bs.get! place = bs.data.toList[place] := by
        rw [ByteArray.get!, Array.getElem_toList]
        exact getElem!_pos bs.data place (by simpa using hlt)
      rw [ByteArray.toList.loop, if_pos hlt, ih, List.drop_eq_getElem_cons hplace, hbyte]
      simp
  | case2 place seen hge =>
      have hend : bs.data.toList.length ≤ place := by simpa using hge
      rw [ByteArray.toList.loop, if_neg hge, List.drop_eq_nil_of_le hend, List.append_nil]

theorem encode_eq (s : String) : encode s = utf8Bytes s.toList := by
  have hbytes : s.toByteArray = (utf8Bytes s.toList).toByteArray := by
    rw [utf8Bytes, ← List.utf8Encode, ← String.toByteArray_ofList, String.ofList_toList]
  rw [encode, String.toUTF8_eq_toByteArray, ByteArray.toList, byteList_loop, hbytes,
    List.toList_data_toByteArray]
  rfl

/-! ## The encoding is detected -/

/-- Bytes that begin with a character of ASCII, and have no zero among the first two, are taken for
UTF-8. -/
theorem decodeDetected?_of_ascii {a : UInt8} {bs : List UInt8} (hzero : a ≠ 0)
    (hascii : a.toNat < 0x80) (hnext : ∀ b rest, bs = b :: rest → b ≠ 0) :
    decodeDetected? (a :: bs) = decodeCodes? true (a :: bs) := by
  rw [decodeDetected?.eq_def]
  split
  -- a byte order mark begins with a byte that is none of ASCII
  · rename_i heq
    exact absurd (List.cons.inj heq).1 hzero
  · rename_i heq
    rw [(List.cons.inj heq).1] at hascii
    exact absurd hascii (by decide)
  · rename_i heq
    rw [(List.cons.inj heq).1] at hascii
    exact absurd hascii (by decide)
  · rename_i heq
    rw [(List.cons.inj heq).1] at hascii
    exact absurd hascii (by decide)
  · rename_i heq
    rw [(List.cons.inj heq).1] at hascii
    exact absurd hascii (by decide)
  -- without a mark the zeros decide
  · split
    · rename_i x y heq
      obtain ⟨rfl, rfl⟩ := List.cons.inj heq
      rw [if_neg hzero, if_neg (hnext y [] rfl)]
    · rename_i w x y z rest heq
      obtain ⟨rfl, rfl⟩ := List.cons.inj heq
      rw [if_neg hzero, if_neg (hnext x _ rfl)]
    · rfl

/-- Characters of ASCII but the null character. -/
def IsPlainAscii (c : Char) : Prop := 0 < c.toNat ∧ c.toNat < 0x80

theorem utf8Bytes_cons_of_ascii {c : Char} (h : IsPlainAscii c) (cs : List Char) :
    utf8Bytes (c :: cs) = UInt8.ofNat c.toNat :: utf8Bytes cs := by
  have hone : String.utf8EncodeChar c = [UInt8.ofNat c.toNat] := by
    rw [String.utf8EncodeChar]
    exact if_pos (by have := h.2; exact Nat.le_of_lt_succ this)
  rw [utf8Bytes, List.flatMap_cons, hone]
  rfl

theorem toNat_ofNat_of_ascii {c : Char} (h : IsPlainAscii c) :
    (UInt8.ofNat c.toNat).toNat = c.toNat := by
  rw [UInt8.toNat_ofNat', Nat.mod_eq_of_lt (h.2.trans (by decide))]

theorem byte_ne_zero {c : Char} (h : IsPlainAscii c) : UInt8.ofNat c.toNat ≠ 0 := by
  intro hzero
  have hnat := congrArg UInt8.toNat hzero
  rw [toNat_ofNat_of_ascii h] at hnat
  exact absurd hnat h.1.ne'

/-- A text whose first two characters are of ASCII is read back from its bytes. -/
theorem decodeDetected?_utf8Bytes {c d : Char} (hc : IsPlainAscii c) (hd : IsPlainAscii d)
    (cs : List Char) :
    decodeDetected? (utf8Bytes (c :: d :: cs)) = some (codesOf (c :: d :: cs)) := by
  rw [← decodeCodes?_utf8Bytes, utf8Bytes_cons_of_ascii hc, utf8Bytes_cons_of_ascii hd]
  apply decodeDetected?_of_ascii (byte_ne_zero hc)
  · rw [toNat_ofNat_of_ascii hc]
    exact hc.2
  · rintro b rest heq
    rw [← (List.cons.inj heq).1]
    exact byte_ne_zero hd

end ParamGate.Text
