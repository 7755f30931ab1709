import Mathlib.Data.List.TakeWhile
import Mathlib.Data.Nat.Digits.Defs
import ParamGate.Proofs.Parameter.CommaForm
import ParamGate.Proofs.Text.Trim

/-!
# Integers at the front of a text

`LeadingInteger` is the grammar of an integer that a text begins with: blanks, at most one sign, and
a run of digits of any script that ends where no further digit follows. What stands behind the run
does not matter. A text begins with one such integer at most (`LeadingInteger.unique`).

The main statement, `coerceAs_integer_text`, says that a text is coerced to the integer that it
begins with, and to null if it begins with none or if the run is longer than the limit of digits. A
surrogate ends the run like every other character that is no digit.
-/

namespace ParamGate

open Text

/-! ## The grammar -/

/-- The value of a digit. -/
def digitOf (c : Char) : Nat := (digitValue? c).getD 0

/-- The number that digits denote, of which the first counts most. -/
def numberOf (digits : List Char) : Nat := Nat.ofDigits 10 (digits.reverse.map digitOf)

/-- At most one sign, and whether it makes a number negative. -/
inductive IsSign : List Char → Bool → Prop
  | absent : IsSign [] false
  | plus : IsSign ['+'] false
  | minus : IsSign ['-'] true

/-- The text begins with an integer, which is written with these digits. -/
structure LeadingInteger (cs digits : List Char) (n : Int) : Prop where
  ne_nil : digits ≠ []
  allDigits : ∀ c ∈ digits, isDigit c = true
  parts : ∃ blanks sign negative rest, (∀ c ∈ blanks, isBlank c = true) ∧ IsSign sign negative ∧
    (∀ c ∈ rest.head?, isDigit c = false) ∧ cs = blanks ++ sign ++ digits ++ rest ∧
    n = withSign negative (numberOf digits)

/-! ## Digits of every script -/

theorem digitZeros_apart :
    digitZeros.toList.all (fun z => highBlanks.all fun n => Nat.blt n z || Nat.blt (z + 9) n) =
      true := by
  decide +kernel

/-- No digit is a blank. -/
theorem isBlank_of_digit {c : Char} (h : isDigit c = true) : isBlank c = false := by
  cases hb : isBlank c with
  | false => rfl
  | true =>
      obtain ⟨d, hd⟩ := Option.isSome_iff_exists.1 h
      simp only [digitValue?] at hd
      split at hd
      -- in ASCII both classes are intervals, beyond it each blank is looked up in the table
      · rename_i hc
        simp only [isBlank, Bool.or_eq_true, Bool.and_eq_true, decide_eq_true_eq,
          beq_iff_eq] at hb
        split at hd
        · omega
        · simp at hd
      · rename_i hc
        obtain ⟨z, hz, -⟩ := Option.map_eq_some_iff.1 hd
        have hrange := Array.find?_some hz
        have hmem := Array.mem_toList_iff.2 (Array.mem_of_find?_eq_some hz)
        have hapart := List.all_eq_true.1 (List.all_eq_true.1 digitZeros_apart z hmem) _
          (mem_highBlanks hb hc)
        simp only [Bool.and_eq_true, decide_eq_true_eq] at hrange
        simp only [Bool.or_eq_true, Nat.blt_eq] at hapart
        omega

theorem ofDigits_eq (ds : List Nat) : ofDigits ds = Nat.ofDigits 10 ds.reverse := by
  rw [ofDigits, Nat.ofDigits_eq_foldr, ← List.foldr_reverse]
  congr 1
  funext d acc
  exact Nat.add_comm _ _

theorem ofDigits_map_digitOf (digits : List Char) :
    ofDigits (digits.map digitOf) = numberOf digits := by
  rw [ofDigits_eq, numberOf, List.map_reverse]

/-- The longest run of digits is taken. -/
theorem takeDigits_eq (cs : List Char) :
    takeDigits digitValue? cs = ((cs.takeWhile isDigit).map digitOf, cs.dropWhile isDigit) := by
  induction cs with
  | nil => rfl
  | cons c cs ih =>
      cases hc : digitValue? c with
      | none =>
          have hdigit : isDigit c = false := by rw [isDigit, hc]; rfl
          simp [takeDigits, hc, hdigit]
      | some d =>
          have hdigit : isDigit c = true := by rw [isDigit, hc]; rfl
          simp [takeDigits, hc, hdigit, ih, digitOf]

/-! ## Signs -/

/-- A sign is taken off, and a text without one begins with none. -/
theorem takeSign_sign {sign rest : List Char} {negative : Bool} (h : IsSign sign negative)
    (hrest : ∀ c ∈ rest.head?, c ≠ '+' ∧ c ≠ '-') : takeSign (sign ++ rest) = (negative, rest) := by
  cases h with
  | plus => rfl
  | minus => rfl
  | absent =>
      rw [List.nil_append]
      unfold takeSign
      split
      · exact absurd rfl (hrest '+' rfl).1
      · exact absurd rfl (hrest '-' rfl).2
      · rfl

theorem exists_sign (cs : List Char) :
    ∃ sign, IsSign sign (takeSign cs).1 ∧ cs = sign ++ (takeSign cs).2 := by
  unfold takeSign
  split
  · exact ⟨['+'], .plus, rfl⟩
  · exact ⟨['-'], .minus, rfl⟩
  · exact ⟨[], .absent, rfl⟩

/-! ## Reading -/

/-- Whether a minus sign stands at the front, behind blanks. -/
def frontSign (cs : List Char) : Bool := (takeSign (cs.dropWhile isBlank)).1

/-- The longest run of digits at the front, behind blanks and a sign. -/
def frontDigits (cs : List Char) : List Char :=
  (takeSign (cs.dropWhile isBlank)).2.takeWhile isDigit

/-- An integer is read from the digits at the front, if there are any and not too many. -/
theorem readInteger?_eq (cs : List Char) :
    readInteger? cs =
      if (frontDigits cs).isEmpty then none
      else if (frontDigits cs).length ≤ maxDigits then
        some (withSign (frontSign cs) (numberOf (frontDigits cs)))
      else none := by
  show (if (takeDigits digitValue? (takeSign (cs.dropWhile isBlank)).2).1.isEmpty then none
    else if (takeDigits digitValue? (takeSign (cs.dropWhile isBlank)).2).1.length ≤ maxDigits then
      some (withSign (frontSign cs)
        (ofDigits (takeDigits digitValue? (takeSign (cs.dropWhile isBlank)).2).1))
    else none) = _
  rw [takeDigits_eq, ← frontDigits, List.isEmpty_map, List.length_map, ofDigits_map_digitOf]

section Reading

variable {cs digits : List Char} {n : Int}

/-- The parts of the grammar are the ones that are read. -/
theorem LeadingInteger.front_eq (h : LeadingInteger cs digits n) :
    frontDigits cs = digits ∧ withSign (frontSign cs) (numberOf digits) = n := by
  obtain ⟨blanks, sign, negative, rest, hblanks, hsign, hrest, rfl, rfl⟩ := h.parts
  obtain ⟨c, ds, rfl⟩ := List.exists_cons_of_ne_nil h.ne_nil
  have hc := h.allDigits c List.mem_cons_self
  -- the first digit ends the blanks, if the sign does not, and it is no sign itself
  have hblank := isBlank_of_digit hc
  have hne : c ≠ '+' ∧ c ≠ '-' := by
    constructor
    · rintro rfl
      simp [isDigit, digitValue?] at hc
    · rintro rfl
      simp [isDigit, digitValue?] at hc
  have hdrop : (blanks ++ sign ++ (c :: ds) ++ rest).dropWhile isBlank =
      sign ++ ((c :: ds) ++ rest) := by
    rw [List.append_assoc, List.append_assoc, List.dropWhile_append_of_pos hblanks]
    cases hsign with
    | absent => exact List.dropWhile_cons_of_neg (by simp [hblank])
    | plus => rfl
    | minus => rfl
  have hsigned : takeSign (sign ++ ((c :: ds) ++ rest)) = (negative, (c :: ds) ++ rest) := by
    apply takeSign_sign hsign
    intro d hd
    obtain rfl := Option.some.inj hd
    exact hne
  have hdigits : ((c :: ds) ++ rest).takeWhile isDigit = c :: ds := by
    rw [List.takeWhile_append_of_pos h.allDigits]
    cases rest with
    | nil => simp
    | cons d rest => simp [hrest d rfl]
  constructor
  · rw [frontDigits, hdrop, hsigned, hdigits]
  · rw [frontSign, hdrop, hsigned]

/-- The digits that are read, if there are any, are an integer at the front. -/
theorem leadingInteger_front (h : frontDigits cs ≠ []) :
    LeadingInteger cs (frontDigits cs) (withSign (frontSign cs) (numberOf (frontDigits cs))) := by
  refine ⟨h, fun c hc => List.mem_takeWhile_imp hc, ?_⟩
  obtain ⟨sign, hsign, hsplit⟩ := exists_sign (cs.dropWhile isBlank)
  refine ⟨cs.takeWhile isBlank, sign, frontSign cs,
    (takeSign (cs.dropWhile isBlank)).2.dropWhile isDigit,
    fun c hc => List.mem_takeWhile_imp hc, hsign, ?_, ?_, rfl⟩
  · intro c hc
    have hend := List.head?_dropWhile_not isDigit (takeSign (cs.dropWhile isBlank)).2
    rwa [Option.mem_def.1 hc] at hend
  · rw [List.append_assoc _ (frontDigits cs), frontDigits, List.takeWhile_append_dropWhile,
      List.append_assoc, ← hsplit, List.takeWhile_append_dropWhile]

theorem LeadingInteger.unique {ds : List Char} {m : Int} (h : LeadingInteger cs digits n)
    (h' : LeadingInteger cs ds m) : digits = ds ∧ n = m := by
  obtain ⟨hdigits, hn⟩ := h.front_eq
  obtain ⟨hds, hm⟩ := h'.front_eq
  obtain rfl := hdigits.symm.trans hds
  exact ⟨rfl, hn.symm.trans hm⟩

/-- What a text begins with is read unless it has too many digits. -/
theorem LeadingInteger.readInteger?_eq (h : LeadingInteger cs digits n) :
    readInteger? cs = if digits.length ≤ maxDigits then some n else none := by
  obtain ⟨hdigits, hn⟩ := h.front_eq
  have hne : ¬ digits.isEmpty := by simpa using h.ne_nil
  rw [ParamGate.readInteger?_eq, hdigits, if_neg hne, hn]

/-- A text that begins with no integer is read as none. -/
theorem readInteger?_of_not_leading (h : ∀ digits n, ¬ LeadingInteger cs digits n) :
    readInteger? cs = none := by
  have hnil : (frontDigits cs).isEmpty := by
    by_contra hne
    exact h _ _ (leadingInteger_front (by simpa using hne))
  rw [readInteger?_eq, if_pos hnil]

theorem readInteger?_eq_some_iff :
    readInteger? cs = some n ↔
      ∃ digits, LeadingInteger cs digits n ∧ digits.length ≤ maxDigits := by
  constructor
  · intro h
    by_cases hlead : ∃ digits m, LeadingInteger cs digits m
    · obtain ⟨digits, m, hd⟩ := hlead
      rw [hd.readInteger?_eq] at h
      split at h
      · rename_i hlength
        obtain rfl := Option.some.inj h
        exact ⟨digits, hd, hlength⟩
      · simp at h
    · rw [readInteger?_of_not_leading fun digits m hd => hlead ⟨digits, m, hd⟩] at h
      simp at h
  · rintro ⟨digits, hd, hlength⟩
    rw [hd.readInteger?_eq, if_pos hlength]

theorem readInteger?_eq_none_iff :
    readInteger? cs = none ↔
      (∀ digits n, ¬ LeadingInteger cs digits n) ∨
        ∃ digits n, LeadingInteger cs digits n ∧ maxDigits < digits.length := by
  constructor
  · intro h
    by_cases hlead : ∃ digits m, LeadingInteger cs digits m
    · obtain ⟨digits, m, hd⟩ := hlead
      rw [hd.readInteger?_eq] at h
      refine Or.inr ⟨digits, m, hd, ?_⟩
      by_contra hlength
      rw [if_pos (Nat.le_of_not_lt hlength)] at h
      simp at h
    · exact Or.inl fun digits m hd => hlead ⟨digits, m, hd⟩
  · rintro (h | ⟨digits, m, hd, hlength⟩)
    · exact readInteger?_of_not_leading h
    · rw [hd.readInteger?_eq, if_neg (Nat.not_le_of_lt hlength)]

end Reading

/-! ## Surrogates -/

/-- The characters of a text before its first surrogate. -/
def beforeSurrogate (codes : List Nat) : List Char :=
  (codes.takeWhile fun n => !isSurrogate n).map charOf

/-- Whether a sign is taken off depends on the first character alone. -/
theorem takeSign_append {c : Char} (hc : c ≠ '+' ∧ c ≠ '-') (cs rest : List Char) :
    takeSign (cs ++ c :: rest) = ((takeSign cs).1, (takeSign cs).2 ++ c :: rest) := by
  have hunsigned {d : Char} (hd : d ≠ '+' ∧ d ≠ '-') (ds : List Char) :
      takeSign (d :: ds) = (false, d :: ds) :=
    takeSign_sign .absent fun _ he => Option.some.inj he ▸ hd
  cases cs with
  | nil => exact hunsigned hc rest
  | cons d ds =>
      by_cases hplus : d = '+'
      · subst hplus
        rfl
      by_cases hminus : d = '-'
      · subst hminus
        rfl
      rw [List.cons_append, hunsigned ⟨hplus, hminus⟩, hunsigned ⟨hplus, hminus⟩]
      rfl

/-- A character that is no blank, no sign and no digit ends what is read. -/
theorem readInteger?_append {c : Char} (hblank : isBlank c = false) (hsign : c ≠ '+' ∧ c ≠ '-')
    (hdigit : isDigit c = false) (cs rest : List Char) :
    readInteger? (cs ++ c :: rest) = readInteger? cs := by
  have hdrop : (cs ++ c :: rest).dropWhile isBlank = cs.dropWhile isBlank ++ c :: rest := by
    rw [List.dropWhile_append]
    split
    · rename_i hnil
      rw [List.isEmpty_iff.1 hnil, List.dropWhile_cons_of_neg (by simp [hblank]), List.nil_append]
    · rfl
  have htake (ds : List Char) : (ds ++ c :: rest).takeWhile isDigit = ds.takeWhile isDigit := by
    induction ds with
    | nil => exact List.takeWhile_cons_of_neg (by simp [hdigit])
    | cons d ds ih => rw [List.cons_append, List.takeWhile_cons, List.takeWhile_cons, ih]
  have hdigits : frontDigits (cs ++ c :: rest) = frontDigits cs := by
    rw [frontDigits, hdrop, takeSign_append hsign, htake, frontDigits]
  have hfront : frontSign (cs ++ c :: rest) = frontSign cs := by
    rw [frontSign, hdrop, takeSign_append hsign, frontSign]
  rw [readInteger?_eq, readInteger?_eq, hdigits, hfront]

/-- A surrogate ends what is read. -/
theorem readInteger?_codes (codes : List Nat) :
    readInteger? (codes.map charOf) = readInteger? (beforeSurrogate codes) := by
  have hsplit : codes.map charOf = beforeSurrogate codes ++
      (codes.dropWhile fun n => !isSurrogate n).map charOf := by
    rw [beforeSurrogate, ← List.map_append, List.takeWhile_append_dropWhile]
  rw [hsplit]
  cases hrest : codes.dropWhile fun n => !isSurrogate n with
  | nil => rw [List.map_nil, List.append_nil]
  | cons n rest =>
      have hn : isSurrogate n = true := by
        have hhead := List.head?_dropWhile_not (fun n => !isSurrogate n) codes
        rw [hrest] at hhead
        simpa using hhead
      have hchar : charOf n = replacement := by rw [charOf, if_pos hn]
      rw [List.map_cons, hchar]
      exact readInteger?_append (by decide) (by decide) (by decide +kernel) _ _

/-! ## Coercion -/

theorem coerceAs_integer {raw : Value} (h : raw.IsText) :
    coerceAs (.string "integer") (.bool false) raw = coerceInteger raw := by
  have hkind : Kind.parse (.string "integer") = .ok .integer := Kind.parse_name .integer
  rw [coerceAs, hkind, ok_bind]
  exact coerce_isText .integer h

theorem elim_int_eq_ok {read : Option Int} {n : Int} :
    (.ok (read.elim Value.null .int) : Except Fault Value) = .ok (.int n) ↔ read = some n := by
  cases read with
  | none => simp
  | some m => simp

theorem elim_null_eq_ok {read : Option Int} :
    (.ok (read.elim Value.null .int) : Except Fault Value) = .ok .null ↔ read = none := by
  cases read with
  | none => simp
  | some m => simp

/-- A text is coerced to the integer that it begins with, whatever follows it, if that has no more
than 4300 digits, and it is coerced to null exactly if it begins with none or with a longer one. Of
a text with surrogates the part before the first one counts. -/
theorem coerceAs_integer_text (s : String) :
    (∀ n, coerceAs (.string "integer") (.bool false) (.string s) = .ok (.int n) ↔
      ∃ digits, LeadingInteger s.toList digits n ∧ digits.length ≤ 4300) ∧
    (coerceAs (.string "integer") (.bool false) (.string s) = .ok .null ↔
      (∀ digits n, ¬ LeadingInteger s.toList digits n) ∨
        ∃ digits n, LeadingInteger s.toList digits n ∧ 4300 < digits.length) ∧
    ∀ codes, coerceAs (.string "integer") (.bool false) (.illFormed codes) =
      coerceAs (.string "integer") (.bool false)
        (.string (String.ofList (beforeSurrogate codes))) := by
  have htext (t : String) : coerceAs (.string "integer") (.bool false) (.string t) =
      .ok ((readInteger? t.toList).elim .null .int) :=
    (coerceAs_integer (Or.inl ⟨t, rfl⟩)).trans (coerceScalar_integer_string t)
  refine ⟨?_, ?_, ?_⟩
  · intro n
    rw [htext, elim_int_eq_ok]
    exact readInteger?_eq_some_iff
  · rw [htext, elim_null_eq_ok]
    exact readInteger?_eq_none_iff
  · intro codes
    have hcodes : coerceInteger (.illFormed codes) =
        .ok ((readInteger? (String.ofList (codes.map charOf)).toList).elim .null .int) := rfl
    rw [coerceAs_integer (Or.inr ⟨codes, rfl⟩), hcodes, htext, String.toList_ofList,
      String.toList_ofList, readInteger?_codes]

/-- Blanks, a sign, digits of two scripts with zeros in front, and what follows them. -/
example : readInteger? " -0٤2.9".toList = some (-42) := by decide +kernel

end ParamGate
