import Mathlib.Data.Fin.Basic
import ParamGate.Proofs.Json.Grammar

/-!
# Words of JSON

The lexer cuts words out of a text and then gives each a value as a whole. A numeral has its value,
unless it is an integer with too many digits: then the word has none (`word?_chars`).
-/

namespace ParamGate.Json

open Text

/-! ## Digits -/

theorem asciiDigit?_digitChar (d : Fin 10) : asciiDigit? (digitChar d) = some d.val := by
  revert d
  decide

theorem isWordChar_digitChar (d : Fin 10) : isWordChar (digitChar d) = true := by
  revert d
  decide

theorem digitChar_ne (d : Fin 10) : digitChar d ≠ '-' ∧ digitChar d ≠ '+' := by
  revert d
  decide

/-- Digits end where something else follows. -/
theorem takeDigits_digitChars (ds : List (Fin 10)) {rest : List Char}
    (hrest : ∀ c more, rest = c :: more → asciiDigit? c = none) :
    takeDigits asciiDigit? (ds.map digitChar ++ rest) = (ds.map Fin.val, rest) := by
  induction ds with
  | nil =>
      cases rest with
      | nil => rfl
      | cons c more =>
          rw [List.map_nil, List.nil_append, takeDigits, hrest c more rfl]
          rfl
  | cons d ds ih =>
      rw [List.map_cons, List.cons_append, takeDigits, asciiDigit?_digitChar, ih]
      rfl

theorem takeDigits_all_digitChars (ds : List (Fin 10)) :
    takeDigits asciiDigit? (ds.map digitChar) = (ds.map Fin.val, []) := by
  have htake := @takeDigits_digitChars ds [] nofun
  rwa [List.append_nil] at htake

/-! ## Numerals -/

theorem takeSign_signChars (sign : Option Bool) {ds : List (Fin 10)} (hds : ds ≠ []) :
    takeSign (signChars sign ++ ds.map digitChar) = (sign.getD false, ds.map digitChar) := by
  match sign with
  | some true => rfl
  | some false => rfl
  | none =>
      obtain ⟨d, more, rfl⟩ := List.exists_cons_of_ne_nil hds
      obtain ⟨hminus, hplus⟩ := digitChar_ne d
      rw [signChars, List.nil_append, List.map_cons, takeSign]
      · rfl
      · exact fun _ h => hplus (List.cons.inj h).1
      · exact fun _ h => hminus (List.cons.inj h).1

/-- An exponent is read as a whole. -/
theorem takeExponent_chars (e : Exponent) :
    Binary64.takeExponent asciiDigit? e.chars = (e.value, []) := by
  rw [Exponent.chars, Binary64.takeExponent, if_pos e.letter_eq,
    takeSign_signChars e.sign e.digits_ne]
  dsimp only
  rw [takeDigits_all_digitChars]
  obtain ⟨d, more, hds⟩ := List.exists_cons_of_ne_nil e.digits_ne
  rw [hds, List.map_cons, Exponent.value, hds]
  rfl

/-- The letter of an exponent is part of the word, and is taken for nothing else. -/
theorem Exponent.letter_class (e : Exponent) :
    asciiDigit? e.letter = none ∧ isWordChar e.letter = true ∧ e.letter ≠ '.' := by
  rcases e.letter_eq with h | h
  · rw [h]
    decide
  · rw [h]
    decide

/-- An exponent begins with no digit. -/
theorem Numeral.exponentChars_head (n : Numeral) :
    ∀ c more, n.exponentChars = c :: more → asciiDigit? c = none := by
  intro c more h
  rw [exponentChars] at h
  cases he : n.exponent with
  | none =>
      rw [he] at h
      cases h
  | some e =>
      rw [he] at h
      obtain ⟨rfl, -⟩ := List.cons.inj h
      exact e.letter_class.1

/-- What follows the whole part begins with no digit. -/
theorem Numeral.tail_head (n : Numeral) :
    ∀ c more, n.tail = c :: more → asciiDigit? c = none := by
  intro c more h
  rw [tail] at h
  split at h
  · exact n.exponentChars_head c more h
  · obtain ⟨rfl, -⟩ := List.cons.inj h
    rfl

/-- A number with a fraction or an exponent is a floating one. -/
theorem floating_exponentChars (n : Numeral) (fraction : List (Fin 10)) :
    number?.floating n.negative (n.whole.map Fin.val) (fraction.map Fin.val) n.exponentChars =
      some (.float (Binary64.ofDecimal n.negative (digitsValue (n.whole ++ fraction))
        ((n.exponent.map Exponent.value).getD 0 - fraction.length))) := by
  have hexponent : Binary64.takeExponent asciiDigit? n.exponentChars =
      ((n.exponent.map Exponent.value).getD 0, []) := by
    rw [Numeral.exponentChars]
    cases n.exponent with
    | none => rfl
    | some e => exact takeExponent_chars e
  rw [number?.floating, hexponent, digitsValue, List.map_append, List.length_map]

/-- No digit follows a zero in front. -/
theorem Numeral.whole_values (n : Numeral) :
    ∃ first more, n.whole.map Fin.val = first :: more ∧ ¬ (first = 0 ∧ more ≠ []) := by
  obtain ⟨d, more, hd⟩ := List.exists_cons_of_ne_nil n.whole_ne
  refine ⟨d.val, more.map Fin.val, by rw [hd, List.map_cons], ?_⟩
  rintro ⟨hzero, hmore⟩
  have hd0 : d = 0 := Fin.ext hzero
  have hone := n.whole_short (by rw [hd, hd0]; rfl)
  rw [hd] at hone
  exact hmore (by rw [(List.cons.inj hone).2, List.map_nil])

/-- A numeral has its value unless it is an integer with too many digits. -/
theorem number?_chars (n : Numeral) :
    number? n.negative (n.whole.map digitChar ++ n.tail) =
      if n.Overlong then none else some n.value := by
  obtain ⟨first, more, hwhole, hshort⟩ := n.whole_values
  rw [number?, takeDigits_digitChars n.whole n.tail_head, hwhole]
  dsimp only
  rw [if_neg hshort, ← hwhole, Numeral.tail, Numeral.value]
  cases hf : n.fraction with
  | some ds =>
      have hint : ¬ n.IsInteger := fun h => by simp [h.1] at hf
      obtain ⟨d, others, rfl⟩ : ∃ d others, ds = d :: others := by
        apply List.exists_cons_of_ne_nil
        rintro rfl
        exact n.fraction_ne hf
      have hoverlong : ¬ n.Overlong := fun h => hint h.1
      have hfloat := floating_exponentChars n (d :: others)
      have htake := takeDigits_digitChars (d :: others) n.exponentChars_head
      rw [if_neg hint, if_neg hoverlong]
      simp only [htake]
      exact hfloat
  | none =>
      cases he : n.exponent with
      | none =>
          have hint : n.IsInteger := ⟨hf, he⟩
          have hempty : n.exponentChars = [] := by rw [Numeral.exponentChars, he]; rfl
          rw [if_pos hint]
          dsimp only
          rw [hempty, List.length_map]
          by_cases hlong : maxIntegerDigits < n.whole.length
          · rw [if_neg (Nat.not_le_of_lt hlong), if_pos ⟨hint, hlong⟩]
          · rw [if_pos (Nat.le_of_not_lt hlong), if_neg (fun h => hlong h.2), digitsValue]
      | some e =>
          have hint : ¬ n.IsInteger := fun h => by simp [h.2] at he
          have hoverlong : ¬ n.Overlong := fun h => hint h.1
          have hfloat := floating_exponentChars n []
          have hchars : n.exponentChars = e.letter :: (signChars e.sign ++ e.digits.map digitChar) := by
            rw [Numeral.exponentChars, he]
            rfl
          rw [if_neg hint, if_neg hoverlong]
          dsimp only
          rw [he] at hfloat
          split
          · rename_i hnil
            rw [hchars] at hnil
            cases hnil
          · rename_i after hpoint
            rw [hchars] at hpoint
            exact absurd (List.cons.inj hpoint).1 e.letter_class.2.2
          · exact hfloat

/-! ## Whole words -/

/-- Words that are no numerals. -/
def literals : List String := ["null", "true", "false", "NaN", "Infinity", "-Infinity"]

/-- Every other word is taken for a number. -/
theorem word?_of_notMem {cs : List Char} : String.ofList cs ∉ literals →
    word? cs = match cs with
      | '-' :: rest => number? true rest
      | _ => number? false cs := by
  intro h
  unfold word?
  split
  · rename_i heq
    exact absurd heq fun e => h (by simp [e, literals])
  · rename_i heq
    exact absurd heq fun e => h (by simp [e, literals])
  · rename_i heq
    exact absurd heq fun e => h (by simp [e, literals])
  · rename_i heq
    exact absurd heq fun e => h (by simp [e, literals])
  · rename_i heq
    exact absurd heq fun e => h (by simp [e, literals])
  · rename_i heq
    exact absurd heq fun e => h (by simp [e, literals])
  · rfl

/-- Literals begin with a letter, or with a minus sign and a letter. -/
theorem literals_letters : ∀ s ∈ literals,
    (s.toList.head?.any fun c => c == '-' || (asciiDigit? c).isNone) = true ∧
      ((s.toList.drop 1).head?.any fun c => (asciiDigit? c).isNone) = true := by
  decide

theorem word?_digit (d : Fin 10) (cs : List Char) :
    word? (digitChar d :: cs) = number? false (digitChar d :: cs) := by
  have hdigit := asciiDigit?_digitChar d
  have hminus := (digitChar_ne d).1
  have hother : String.ofList (digitChar d :: cs) ∉ literals := by
    intro h
    have hfirst := (literals_letters _ h).1
    rw [String.toList_ofList] at hfirst
    simp [hdigit, hminus] at hfirst
  rw [word?_of_notMem hother]
  split
  · rename_i rest h
    exact absurd (List.cons.inj h).1 hminus
  · rfl

theorem word?_minus (d : Fin 10) (cs : List Char) :
    word? ('-' :: digitChar d :: cs) = number? true (digitChar d :: cs) := by
  have hdigit := asciiDigit?_digitChar d
  have hother : String.ofList ('-' :: digitChar d :: cs) ∉ literals := by
    intro h
    have hsecond := (literals_letters _ h).2
    rw [String.toList_ofList] at hsecond
    simp [hdigit] at hsecond
  rw [word?_of_notMem hother]
  rfl

/-- The word of a numeral has its value, unless it is an integer with too many digits. -/
theorem word?_chars (n : Numeral) : word? n.chars = if n.Overlong then none else some n.value := by
  obtain ⟨d, more, hd⟩ := List.exists_cons_of_ne_nil n.whole_ne
  have hnumber := number?_chars n
  rw [hd, List.map_cons, List.cons_append] at hnumber
  rw [Numeral.chars, hd, List.map_cons]
  cases hn : n.negative with
  | true =>
      rw [hn] at hnumber
      exact (word?_minus d _).trans hnumber
  | false =>
      rw [hn] at hnumber
      exact (word?_digit d _).trans hnumber

theorem isWordChar_exponentChars (n : Numeral) : ∀ c ∈ n.exponentChars, isWordChar c = true := by
  intro c hc
  rw [Numeral.exponentChars] at hc
  cases he : n.exponent with
  | none => simp [he] at hc
  | some e =>
      rw [he] at hc
      rcases List.mem_cons.1 hc with rfl | hc
      · exact e.letter_class.2.1
      · rcases List.mem_append.1 hc with hc | hc
        · match e.sign, hc with
          | some true, hc =>
              obtain rfl := List.mem_singleton.1 hc
              rfl
          | some false, hc =>
              obtain rfl := List.mem_singleton.1 hc
              rfl
        · obtain ⟨d, -, rfl⟩ := List.mem_map.1 hc
          exact isWordChar_digitChar d

/-- A numeral is written in one word. -/
theorem isWordChar_chars (n : Numeral) : ∀ c ∈ n.chars, isWordChar c = true := by
  have hdigits : ∀ ds : List (Fin 10), ∀ c ∈ ds.map digitChar, isWordChar c = true := by
    intro ds c hc
    obtain ⟨d, -, rfl⟩ := List.mem_map.1 hc
    exact isWordChar_digitChar d
  intro c hc
  rw [Numeral.chars, List.append_assoc] at hc
  rcases List.mem_append.1 hc with hc | hc
  · split at hc
    · obtain rfl := List.mem_singleton.1 hc
      rfl
    · cases hc
  · rcases List.mem_append.1 hc with hc | hc
    · exact hdigits _ c hc
    · rw [Numeral.tail] at hc
      split at hc
      · exact isWordChar_exponentChars n c hc
      · rcases List.mem_cons.1 hc with rfl | hc
        · rfl
        · rcases List.mem_append.1 hc with hc | hc
          · exact hdigits _ c hc
          · exact isWordChar_exponentChars n c hc

theorem chars_ne_nil (n : Numeral) : n.chars ≠ [] := by
  intro h
  rw [Numeral.chars, List.append_assoc] at h
  have hdigits := (List.append_eq_nil_iff.1 (List.append_eq_nil_iff.1 h).2).1
  exact n.whole_ne (List.map_eq_nil_iff.1 hdigits)

end ParamGate.Json
