import Mathlib.Algebra.Group.Nat.Defs
import ParamGate.Text.Digits

/-!
# Reading digits back

The digits of a numeral are read back as the number that they were written for, up to the first
character that is no digit (`takeDigits_append`, `ofDigits_toDigits`). A sign in front of digits is
taken off again (`takeSign_decimal`).
-/

namespace ParamGate.Text

theorem isDigit_iff {c : Char} : c.isDigit = true ↔ 48 ≤ c.toNat ∧ c.toNat ≤ 57 := by
  simp only [Char.isDigit, ge_iff_le, Bool.and_eq_true, decide_eq_true_eq, UInt32.le_iff_toNat_le]
  exact Iff.rfl

/-- A digit of ASCII has its usual value. -/
theorem digitValue?_of_isDigit {c : Char} (h : c.isDigit = true) :
    digitValue? c = some (c.toNat - 48) := by
  obtain ⟨hlow, hhigh⟩ := isDigit_iff.1 h
  simp only [digitValue?]
  rw [if_pos (by omega), if_pos ⟨hlow, hhigh⟩]

theorem not_isBlank_of_isDigit {c : Char} (h : c.isDigit = true) : isBlank c = false := by
  obtain ⟨hlow, hhigh⟩ := isDigit_iff.1 h
  simp only [isBlank, Bool.or_eq_false_iff, Bool.and_eq_false_iff, decide_eq_false_iff_not,
    beq_eq_false_iff_ne]
  omega

/-- Values of digits of ASCII. -/
def digitValues (cs : List Char) : List Nat := cs.map fun c => c.toNat - 48

theorem digitValues_append (cs ds : List Char) :
    digitValues (cs ++ ds) = digitValues cs ++ digitValues ds :=
  List.map_append

theorem length_digitValues (cs : List Char) : (digitValues cs).length = cs.length :=
  List.length_map _

/-- A run of digits ends where something else follows. -/
theorem takeDigits_append {cs rest : List Char} (h : ∀ c ∈ cs, c.isDigit = true)
    (hrest : rest.head?.bind digitValue? = none) :
    takeDigits digitValue? (cs ++ rest) = (digitValues cs, rest) := by
  induction cs with
  | nil =>
      cases rest with
      | nil => rfl
      | cons c rest =>
          have hc : digitValue? c = none := hrest
          simp [takeDigits, hc, digitValues]
  | cons c cs ih =>
      have hc := digitValue?_of_isDigit (h c List.mem_cons_self)
      have hcs := ih fun d hd => h d (List.mem_cons_of_mem c hd)
      simp [takeDigits, hc, hcs, digitValues]

theorem takeDigits_all {cs : List Char} (h : ∀ c ∈ cs, c.isDigit = true) :
    takeDigits digitValue? cs = (digitValues cs, []) := by
  have hend : (([] : List Char).head?.bind digitValue?) = none := rfl
  have htake := takeDigits_append h hend
  rwa [List.append_nil] at htake

theorem ofDigits_digitValues (cs : List Char) :
    ofDigits (digitValues cs) = Nat.ofDigitChars 10 cs 0 := by
  rw [ofDigits, digitValues, List.foldl_map, Nat.ofDigitChars_eq_foldl]
  rfl

/-- The digits of a number have its value. -/
theorem ofDigits_toDigits (n : Nat) : ofDigits (digitValues (Nat.toDigits 10 n)) = n := by
  rw [ofDigits_digitValues, Nat.ofDigitChars_ten_toDigits]

/-- More zeros after the digits multiply it. -/
theorem ofDigits_toDigits_zeros (n zeros : Nat) :
    ofDigits (digitValues (Nat.toDigits 10 n ++ List.replicate zeros '0')) = n * 10 ^ zeros := by
  rw [ofDigits_digitValues, Nat.ofDigitChars_append, Nat.ofDigitChars_ten_toDigits,
    Nat.ofDigitChars_replicate_zero, Nat.mul_comm]

/-- Zeros in front do not count. -/
theorem ofDigits_zeros (zeros : Nat) (cs : List Char) :
    ofDigits (digitValues (List.replicate zeros '0' ++ cs)) = ofDigits (digitValues cs) := by
  rw [ofDigits_digitValues, Nat.ofDigitChars_append, Nat.ofDigitChars_replicate_zero, Nat.mul_zero,
    ofDigits_digitValues]

theorem isDigit_of_mem_zeros {zeros : Nat} {c : Char} (h : c ∈ List.replicate zeros '0') :
    c.isDigit = true := by
  rw [List.eq_of_mem_replicate h]
  rfl

theorem isDigit_toDigits {n : Nat} {c : Char} (h : c ∈ Nat.toDigits 10 n) : c.isDigit = true :=
  Nat.isDigit_of_mem_toDigits (by decide) (by decide) h

/-! ## Signs -/

/-- Characters with a minus sign in front of them if they are negative. -/
def signed (negative : Bool) (cs : List Char) : List Char := if negative then '-' :: cs else cs

/-- In front of a digit the sign is taken off again, and no blank stands before it. -/
theorem takeSign_signed (negative : Bool) {c : Char} (cs : List Char) (h : c.isDigit = true) :
    takeSign ((signed negative (c :: cs)).dropWhile isBlank) = (negative, c :: cs) := by
  cases negative with
  | true => rfl
  | false =>
      have hblank := not_isBlank_of_isDigit h
      rw [signed, if_neg Bool.false_ne_true, List.dropWhile_cons_of_neg (by simp [hblank])]
      unfold takeSign
      split
      · rename_i heq
        obtain rfl := (List.cons.inj heq).1
        simp at h
      · rename_i heq
        obtain rfl := (List.cons.inj heq).1
        simp at h
      · rfl

theorem toList_decimal (n : Int) :
    (decimal n).toList = signed (decide (n < 0)) (Nat.toDigits 10 n.natAbs) := by
  unfold decimal signed
  split
  · rename_i h
    simp [h, Nat.repr_eq_ofList_toDigits]
  · rename_i h
    simp [h, Nat.repr_eq_ofList_toDigits]

/-- The sign of a numeral is taken off, and its digits are left. -/
theorem takeSign_decimal (n : Int) :
    takeSign ((decimal n).toList.dropWhile isBlank) =
      (decide (n < 0), Nat.toDigits 10 n.natAbs) := by
  obtain ⟨c, cs, hcs⟩ := List.exists_cons_of_ne_nil (Nat.toDigits_ne_nil (n := n.natAbs) (b := 10))
  have hc : c.isDigit = true := isDigit_toDigits (by rw [hcs]; exact List.mem_cons_self)
  rw [toList_decimal, hcs, takeSign_signed (decide (n < 0)) cs hc]

theorem withSign_natAbs (n : Int) : withSign (decide (n < 0)) n.natAbs = n := by
  unfold withSign
  split
  · rename_i h
    have := of_decide_eq_true h
    omega
  · rename_i h
    have : ¬ n < 0 := fun hn => h (decide_eq_true hn)
    omega

end ParamGate.Text
