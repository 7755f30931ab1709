import ParamGate.Proofs.Binary64.Shortest
import ParamGate.Proofs.Parameter.Coercion
import ParamGate.Proofs.Text.Ascii

/-!
# Reading the text of a value again

A value that was read from a text has a text of its own, which need not be the one that was read:
`12px` is read as 12, and `1e3` as 1000.0. Read again to the same type, the text of the value gives
the value (`coerce_inText`), with one exception. An infinite number is written by a word that
numbers are not read from, so its text is read as no number.
-/

namespace ParamGate

open Text

/-- The text of a value, as a value. A text is its own. -/
def Value.inText (v : Value) : Except Fault Value :=
  match v with
  | .illFormed codes => .ok (.illFormed codes)
  | v => v.text.map .string

/-! ## Numbers -/

/-- A finite number that was read is representable. -/
theorem representable_of_readNumber? {cs : List Char} {negative : Bool} {units : Nat}
    (h : readNumber? cs = some (.finite negative units)) : Binary64.Representable units := by
  unfold readNumber? at h
  simp only at h
  split at h
  · simp at h
  · obtain ⟨⟨y, rest⟩, hy, rfl⟩ := Option.map_eq_some_iff.1 h
    obtain ⟨digits, exponent, hx⟩ := Binary64.takeDecimal?_eq_some hy
    exact (Binary64.ofDecimal_representable hx.symm).2

/-- The word for infinity does not begin with a digit. -/
theorem not_infinity_of_isDigit {c : Char} (h : c.isDigit = true) (cs : List Char) :
    "Infinity".toList.isPrefixOf (c :: cs) = false := by
  have hne : ¬ 'I' = c := by
    rintro rfl
    simp at h
  simp [List.isPrefixOf, hne]

/-- The text of a representable number is read as the number, with its sign. -/
theorem readNumber?_text {units : Nat} (hr : Binary64.Representable units) (negative : Bool) :
    readNumber? (Binary64.finite negative units).text.toList = some (.finite negative units) := by
  obtain ⟨⟨c, rest, hfront, hc⟩, hvalue⟩ := Binary64.takeDecimal?_magnitudeText hr
  rw [Binary64.toList_text_finite, readNumber?, hfront, takeSign_signed negative rest hc]
  simp only [not_infinity_of_isDigit hc, Bool.false_eq_true, if_false]
  rw [← hfront, hvalue]
  rfl

/-- The texts of the infinite numbers are not read as numbers. -/
theorem readNumber?_text_infinite (negative : Bool) :
    readNumber? (Binary64.infinite negative).text.toList = none := by
  revert negative
  decide +kernel

/-! ## Integers -/

theorem digitValue?_lt {c : Char} {d : Nat} (h : digitValue? c = some d) : d < 10 := by
  unfold digitValue? at h
  simp only at h
  split at h
  · split at h
    · obtain rfl := Option.some.inj h
      omega
    · simp at h
  · obtain ⟨z, hz, rfl⟩ := Option.map_eq_some_iff.1 h
    have hrange := Array.find?_some hz
    simp only [Bool.and_eq_true, decide_eq_true_eq] at hrange
    omega

theorem takeDigits_lt (cs : List Char) : ∀ d ∈ (takeDigits digitValue? cs).1, d < 10 := by
  induction cs with
  | nil => simp [takeDigits]
  | cons c cs ih =>
      unfold takeDigits
      split
      · simp
      · rename_i d hd
        intro e he
        rcases List.mem_cons.1 he with rfl | he
        · exact digitValue?_lt hd
        · exact ih e he

theorem ofDigits_lt {ds : List Nat} (h : ∀ d ∈ ds, d < 10) : ofDigits ds < 10 ^ ds.length := by
  -- the fold is taken from any start, which counts as one digit more
  have key : ∀ acc, ds.foldl (fun acc d => 10 * acc + d) acc < (acc + 1) * 10 ^ ds.length := by
    induction ds with
    | nil => simp
    | cons d ds ih =>
        intro acc
        have hd := h d List.mem_cons_self
        have hrest := ih (fun e he => h e (List.mem_cons_of_mem d he)) (10 * acc + d)
        have hstep : 10 * acc + d + 1 ≤ (acc + 1) * 10 := by omega
        calc (d :: ds).foldl (fun acc d => 10 * acc + d) acc
            < (10 * acc + d + 1) * 10 ^ ds.length := hrest
          _ ≤ (acc + 1) * 10 * 10 ^ ds.length := Nat.mul_le_mul_right _ hstep
          _ = (acc + 1) * 10 ^ (d :: ds).length := by
              rw [List.length_cons, Nat.pow_succ']
              ring
  simpa [ofDigits] using key 0

theorem natAbs_withSign (negative : Bool) (n : Nat) : (withSign negative n).natAbs = n := by
  unfold withSign
  split
  · simp
  · simp

theorem digitBound_eq : Value.digitBound = 10 ^ maxDigits := by
  unfold Value.digitBound maxDigits
  generalize 4300 = digits
  rfl

/-- An integer that was read is within the limit of digits. -/
theorem lt_digitBound_of_readInteger? {cs : List Char} {n : Int} (h : readInteger? cs = some n) :
    n.natAbs < Value.digitBound := by
  unfold readInteger? at h
  simp only at h
  generalize takeSign (cs.dropWhile isBlank) = signed at h
  have hdigits := takeDigits_lt signed.2
  split at h
  · simp at h
  split at h
  · rename_i hlength
    obtain rfl := Option.some.inj h
    rw [natAbs_withSign, digitBound_eq]
    exact Nat.lt_of_lt_of_le (ofDigits_lt hdigits) (Nat.pow_le_pow_right (by decide) hlength)
  · simp at h

/-- The text of an integer is read as the integer, up to the limit of digits. -/
theorem readInteger?_decimal (n : Int) :
    readInteger? (decimal n).toList = if n.natAbs < Value.digitBound then some n else none := by
  have hdigits : ∀ c ∈ Nat.toDigits 10 n.natAbs, c.isDigit = true := fun c hc => isDigit_toDigits hc
  have hlength : (Nat.toDigits 10 n.natAbs).length ≤ maxDigits ↔ n.natAbs < Value.digitBound := by
    rw [digitBound_eq]
    exact Nat.length_toDigits_le_iff (by decide) (by decide)
  have hne : (digitValues (Nat.toDigits 10 n.natAbs)).isEmpty = false := by
    rw [List.isEmpty_eq_false_iff, Ne, digitValues, List.map_eq_nil_iff]
    exact Nat.toDigits_ne_nil
  unfold readInteger?
  rw [takeSign_decimal]
  simp only [takeDigits_all hdigits, hne, Bool.false_eq_true, if_false, length_digitValues, hlength,
    ofDigits_toDigits, withSign_natAbs]

/-! ## Values -/

/-- Without the array flag a text is coerced as a whole. -/
theorem coerce_isText (k : Kind) {raw : Value} (h : raw.IsText) :
    coerce k false raw = coerceScalar k raw := by
  rw [coerce_single k false h.items?_eq_none, coerceSingle_eq]
  rfl

theorem coerceScalar_boolean_string (s : String) :
    coerceScalar .boolean (.string s) = .ok ((readBoolean? s).elim .null .bool) :=
  rfl

theorem coerceScalar_number_string (s : String) :
    coerceScalar .number (.string s) = .ok ((readNumber? s.toList).elim .null .float) :=
  rfl

theorem coerceScalar_integer_string (s : String) :
    coerceScalar .integer (.string s) = .ok ((readInteger? s.toList).elim .null .int) :=
  rfl

/-- A number comes from characters, also if the text has surrogates. -/
theorem readNumber?_of_coerce {raw v : Value} (hraw : raw.IsText) (hv : v ≠ .null)
    (h : coerceScalar .number raw = .ok v) :
    ∃ (s : String) (x : Binary64), readNumber? s.toList = some x ∧ v = .float x := by
  obtain ⟨s, hs⟩ : ∃ s : String, v = (readNumber? s.toList).elim .null .float := by
    rcases hraw with ⟨s, rfl⟩ | ⟨codes, rfl⟩
    · exact ⟨s, (Except.ok.inj h).symm⟩
    · exact ⟨_, (Except.ok.inj h).symm⟩
  cases hx : readNumber? s.toList with
  | none => exact absurd (by rw [hs, hx]; rfl) hv
  | some x => exact ⟨s, x, hx, by rw [hs, hx]; rfl⟩

theorem readInteger?_of_coerce {raw v : Value} (hraw : raw.IsText) (hv : v ≠ .null)
    (h : coerceScalar .integer raw = .ok v) :
    ∃ (s : String) (n : Int), readInteger? s.toList = some n ∧ v = .int n := by
  obtain ⟨s, hs⟩ : ∃ s : String, v = (readInteger? s.toList).elim .null .int := by
    rcases hraw with ⟨s, rfl⟩ | ⟨codes, rfl⟩
    · exact ⟨s, (Except.ok.inj h).symm⟩
    · exact ⟨_, (Except.ok.inj h).symm⟩
  cases hn : readInteger? s.toList with
  | none => exact absurd (by rw [hs, hn]; rfl) hv
  | some n => exact ⟨s, n, hn, by rw [hs, hn]; rfl⟩

/-- The words for truth and falsehood are read as what they say. -/
theorem readBoolean?_word (b : Bool) : readBoolean? (if b then "True" else "False") = some b := by
  cases b with
  | true => exact readBoolean?_of_lower (lower_trim_ascii rfl)
  | false => exact readBoolean?_of_lower (lower_trim_ascii rfl)

theorem inText_of_isText {v : Value} (h : v.IsText) : v.inText = .ok v := by
  rcases h with ⟨s, rfl⟩ | ⟨codes, rfl⟩
  · rfl
  · rfl

/-- What a type of texts keeps is the text that was given. -/
theorem coerceText_eq_self {raw : Value} (hv : coerceText raw ≠ .null) : coerceText raw = raw := by
  rcases coerceText_eq raw with ⟨-, h⟩ | ⟨-, h⟩
  · exact absurd h hv
  · exact h

/-- The value has a text. Read as a value of the type, the text gives the value again, or null if
the value is infinite, which only numbers are. -/
def Kind.ReadsAgain (k : Kind) (v : Value) : Prop :=
  ∃ t, v.inText = .ok t ∧
    ((∀ negative, v ≠ .float (.infinite negative)) → coerce k false t = .ok v) ∧
    ∀ negative, v = .float (.infinite negative) → k = .number ∧ coerce k false t = .ok .null

theorem readsAgain_of_isText {k : Kind} {v : Value} (hv : v.IsText)
    (h : coerce k false v = .ok v) : k.ReadsAgain v := by
  refine ⟨v, inText_of_isText hv, fun _ => h, ?_⟩
  rintro negative rfl
  simp [Value.IsText] at hv

/-- A value that is read from its text and is not infinite. -/
theorem readsAgain_of_finite {k : Kind} {v : Value} {s : String} (hs : v.inText = .ok (.string s))
    (h : coerceScalar k (.string s) = .ok v) (hv : ∀ negative, v ≠ .float (.infinite negative)) :
    k.ReadsAgain v := by
  refine ⟨.string s, hs, fun _ => ?_, fun negative hn => absurd hn (hv negative)⟩
  rw [coerce_isText k (Or.inl ⟨s, rfl⟩)]
  exact h

theorem readsAgain_bool (b : Bool) : Kind.boolean.ReadsAgain (.bool b) := by
  refine readsAgain_of_finite (s := if b then "True" else "False") rfl ?_ (by simp)
  rw [coerceScalar_boolean_string, readBoolean?_word]
  rfl

theorem readsAgain_infinite (negative : Bool) :
    Kind.number.ReadsAgain (.float (.infinite negative)) := by
  refine ⟨.string (Binary64.infinite negative).text, rfl, fun h => absurd rfl (h negative), ?_⟩
  intro _ _
  refine ⟨rfl, ?_⟩
  rw [coerce_isText .number (Or.inl ⟨_, rfl⟩), coerceScalar_number_string,
    readNumber?_text_infinite]
  rfl

theorem readsAgain_finite {units : Nat} (h : Binary64.Representable units) (negative : Bool) :
    Kind.number.ReadsAgain (.float (.finite negative units)) := by
  refine readsAgain_of_finite (s := (Binary64.finite negative units).text) rfl ?_ (by simp)
  rw [coerceScalar_number_string, readNumber?_text h]
  rfl

theorem readsAgain_int {n : Int} (h : n.natAbs < Value.digitBound) :
    Kind.integer.ReadsAgain (.int n) := by
  have htext : (Value.int n).inText = .ok (.string (decimal n)) := by
    show (Value.integerText n).map Value.string = _
    rw [Value.integerText_eq_ok h, map_ok]
  refine readsAgain_of_finite htext ?_ (by simp)
  rw [coerceScalar_integer_string, readInteger?_decimal, if_pos h]
  rfl

/-- A value that was read from a text is read again from its own text, unless it is infinite. -/
theorem coerce_inText {k : Kind} {raw v : Value} (hraw : raw.IsText)
    (h : coerce k false raw = .ok v) (hv : v ≠ .null) : k.ReadsAgain v := by
  have hscalar := h
  rw [coerce_isText k hraw] at hscalar
  -- a type of texts keeps the text as it is
  have text (hk : coerceScalar k raw = .ok (coerceText raw)) : k.ReadsAgain v := by
    obtain rfl := Except.ok.inj (hk.symm.trans hscalar)
    rw [coerceText_eq_self hv] at h ⊢
    exact readsAgain_of_isText hraw h
  cases k with
  | any => exact text rfl
  | string => exact text rfl
  | boolean =>
      obtain ⟨b, rfl⟩ := (coerceBoolean_admits hscalar).resolve_left hv
      exact readsAgain_bool b
  | number =>
      obtain ⟨s, x, hx, rfl⟩ := readNumber?_of_coerce hraw hv hscalar
      cases x with
      | nan payload =>
          have hnan := isNaN_readNumber? hx
          simp [Binary64.isNaN] at hnan
      | infinite negative => exact readsAgain_infinite negative
      | finite negative units => exact readsAgain_finite (representable_of_readNumber? hx) negative
  | integer =>
      obtain ⟨s, n, hn, rfl⟩ := readInteger?_of_coerce hraw hv hscalar
      exact readsAgain_int (lt_digitBound_of_readInteger? hn)

/-- One tenth is no binary fraction, but its text is read as the same number again. -/
theorem coerce_inText_tenth :
    (Value.string "0.1 kg").IsText ∧
      coerce .number false (.string "0.1 kg") = .ok (.float (.ofDecimal false 1 (-1))) ∧
      Value.float (.ofDecimal false 1 (-1)) ≠ .null ∧
      ∃ t, (Value.float (.ofDecimal false 1 (-1))).inText = .ok t ∧
        coerce .number false t = .ok (.float (.ofDecimal false 1 (-1))) := by
  have hread : readNumber? "0.1 kg".toList = some (.ofDecimal false 1 (-1)) := by decide +kernel
  have hc : coerce .number false (.string "0.1 kg") = .ok (.float (.ofDecimal false 1 (-1))) := by
    rw [coerce_isText .number (Or.inl ⟨_, rfl⟩), coerceScalar_number_string, hread]
    rfl
  have hfinite : ∀ negative, Value.float (.ofDecimal false 1 (-1)) ≠
      .float (.infinite negative) := by
    intro negative hn
    have : ∀ s, Binary64.ofDecimal false 1 (-1) ≠ .infinite s := by decide +kernel
    exact this negative (Value.float.inj hn)
  obtain ⟨t, ht, hagain, -⟩ := coerce_inText (Or.inl ⟨_, rfl⟩) hc (by simp)
  exact ⟨Or.inl ⟨_, rfl⟩, hc, by simp, t, ht, hagain hfinite⟩

/-- An infinite number is read from a text, but its own text is read as no number. -/
theorem infinite_not_read_again :
    coerce .number false (.string "Infinity") = .ok (.float (.infinite false)) ∧
      (Value.float (.infinite false)).inText = .ok (.string "inf") ∧
      coerce .number false (.string "inf") = .ok .null := by
  have hread : readNumber? "Infinity".toList = some (.infinite false) := by decide +kernel
  have hagain : readNumber? "inf".toList = none := readNumber?_text_infinite false
  refine ⟨?_, rfl, ?_⟩
  · rw [coerce_isText .number (Or.inl ⟨_, rfl⟩), coerceScalar_number_string, hread]
    rfl
  · rw [coerce_isText .number (Or.inl ⟨_, rfl⟩), coerceScalar_number_string, hagain]
    rfl

end ParamGate
