import ParamGate.Proofs.Parameter.Stability

/-!
# Oversized input

Numbers saturate: an integer too large for a floating number is coerced to infinity, whether it is
given as an integer or as a text, and a text of more digits than an integer may have is coerced to
null (`saturated`). Other values are not protected from the digit limit. A type that looks words up
fails for an integer of more than 4300 digits, and a type of numbers for a map with such an integer
in it, since both ask for the text of the value. `coerceAs_outcome` says that nothing else fails.
-/

namespace ParamGate

open Text

/-! ## Saturation -/

namespace Binary64

/-- An integer and a decimal with its digits denote the same number. -/
theorem ofDecimal_natAbs (n : Int) : ofDecimal (decide (n < 0)) n.natAbs 0 = ofInt n := by
  rcases Nat.eq_zero_or_pos n.natAbs with h | h
  · obtain rfl := Int.natAbs_eq_zero.1 h
    exact ofInt_zero.symm
  · have hne : n.natAbs ≠ 0 := Nat.ne_of_gt h
    unfold ofDecimal
    rw [if_neg hne, if_neg (by decide), if_neg (by omega), if_pos (by decide)]
    simp [ofInt]

end Binary64

/-- The text of an integer is read as the floating number nearest to it. -/
theorem readNumber?_decimal (n : Int) : readNumber? (decimal n).toList = some (.ofInt n) := by
  have hdigits : ∀ c ∈ Nat.toDigits 10 n.natAbs, c.isDigit = true := fun c hc => isDigit_toDigits hc
  have hne : Nat.toDigits 10 n.natAbs ≠ [] := Nat.toDigits_ne_nil
  have hword : "Infinity".toList.isPrefixOf (Nat.toDigits 10 n.natAbs) = false := by
    obtain ⟨c, cs, hcs⟩ := List.exists_cons_of_ne_nil hne
    rw [hcs] at hdigits ⊢
    exact not_infinity_of_isDigit (hdigits c List.mem_cons_self) cs
  have hend : (([] : List Char).head?.bind digitValue?) = none := rfl
  have htake := Binary64.takeDecimal?_whole (decide (n < 0)) hdigits hne hend (by simp)
  rw [List.append_nil, ofDigits_toDigits, Binary64.takeExponent] at htake
  unfold readNumber?
  rw [takeSign_decimal]
  simp only [hword, Bool.false_eq_true, if_false, htake, Option.map_some, Binary64.ofDecimal_natAbs]

/-- What becomes of an integer and of its text. -/
structure Saturated (n : Int) : Prop where
  number : coerce .number false (.int n) = .ok (.float (.ofInt n))
  numeral : coerce .number false (.string (decimal n)) = .ok (.float (.ofInt n))
  infinite : Binary64.ofInt n = .infinite (decide (n < 0)) ↔ Binary64.overflowBound ≤ n.natAbs
  integer : coerce .integer false (.int n) = .ok (.int n)
  digits : coerce .integer false (.string (decimal n)) =
    .ok (if n.natAbs < Value.digitBound then .int n else .null)

theorem saturated (n : Int) : Saturated n where
  number := by
    rw [coerce_single .number false rfl]
    rfl
  numeral := by
    rw [coerce_isText .number (Or.inl ⟨_, rfl⟩), coerceScalar_number_string, readNumber?_decimal]
    rfl
  infinite := Binary64.ofInt_infinite_iff n
  integer := by
    rw [coerce_single .integer false rfl]
    rfl
  digits := by
    rw [coerce_isText .integer (Or.inl ⟨_, rfl⟩), coerceScalar_integer_string, readInteger?_decimal]
    split
    · rfl
    · rfl

/-! ## Failure -/

/-- Coercion by a type that names none fails as reading the type does. Otherwise it fails for the
values that the type cannot coerce, and gives a value of the type for all others; numbers that are
too large are among these. -/
theorem coerceAs_outcome (type array v : Value) :
    (∀ fault, coerceAs type array v = .error fault ↔
      Kind.parse type = .error fault ∨
        ∃ k, Kind.parse type = .ok k ∧ k.Overflows v ∧ fault = .digitLimit) ∧
      (∀ r, coerceAs type array v = .ok r → ∃ k, Kind.parse type = .ok k ∧ r.OfKind k) ∧
      ∀ n, Saturated n := by
  refine ⟨?_, ?_, saturated⟩
  · intro fault
    rw [coerceAs, bind_eq_error_iff]
    refine or_congr_right (exists_congr fun k => and_congr_right fun _ => ?_)
    have hlimited := coerce_limitedBy k array.truthy v
    constructor
    · intro h
      obtain rfl := hlimited.limited fault h
      exact ⟨hlimited.reached.1 h, rfl⟩
    · rintro ⟨ho, rfl⟩
      exact hlimited.reached.2 ho
  · intro r h
    obtain ⟨k, hk, hr⟩ := bind_eq_ok_iff.1 h
    exact ⟨k, hk, coerce_ofKind hr⟩

theorem natAbs_digitBound : ((Value.digitBound : Nat) : Int).natAbs = Value.digitBound :=
  Int.natAbs_natCast _

/-- An integer of 4301 digits in a map is one that a number cannot be read from. -/
theorem coerceAs_outcome_entry :
    coerceAs (.string "number") .null
      (.list [.map [(.string "n", .int (Value.digitBound : Nat))]]) = .error .digitLimit := by
  have htoken : Kind.ofToken? "number" = some .number :=
    congrArg Kind.ofName? (lower_trim_ascii rfl)
  have hkind : Kind.parse (.string "number") = .ok .number := Kind.parse_of_ofToken? htoken
  refine ((coerceAs_outcome _ _ _).1 .digitLimit).2 (Or.inr ⟨.number, hkind, ?_, rfl⟩)
  have hover : (Value.int (Value.digitBound : Nat)).Oversized :=
    .int (Nat.le_of_eq natAbs_digitBound.symm)
  exact .item rfl List.mem_cons_self (.map (Or.inl rfl) (.entry List.mem_cons_self hover))

/-- An integer of 4301 digits is no truth value, but coercion does not say so. -/
theorem coerce_boolean_oversized :
    coerce .boolean false (.int (Value.digitBound : Nat)) = .error .digitLimit := by
  have hlimit : ¬ ((Value.digitBound : Nat) : Int).natAbs < Value.digitBound := by
    rw [natAbs_digitBound]
    exact Nat.lt_irrefl _
  have hnone : Value.integerText (Value.digitBound : Nat) = .error .digitLimit := if_neg hlimit
  rw [coerce_single .boolean false rfl]
  show coerceBoolean (.int (Value.digitBound : Nat)) = _
  rw [coerceBoolean, hnone, map_error]

end ParamGate
