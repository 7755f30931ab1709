import ParamGate.Proofs.Binary64.Rounding
import ParamGate.Proofs.Parameter.Coercion
import ParamGate.Proofs.Text.Ascii

/-!
# What an array parameter gets

Where an array is declared, a value is split, wrapped or coerced entry by entry, and the result is a
list. The flag is not looked at for values that are not true: these are coerced as a whole. Most of
them become null, but falsehood, the zeros, and nothing in bytes or in a map may be read as they
are, and then the result is no list. `Kind.Bare` says which type makes what of which of them, and
`coerce_array_shape` that there are no others.
-/

namespace ParamGate

/-- The type makes the second value, which is no list, of the first one, which is not true, also
where an array is declared. -/
inductive Kind.Bare : Kind → Value → Value → Prop
  | any {v : Value} : v.truthy = false → v.items? = none → v ≠ .null → v ≠ .string "" →
      Bare .any v v
  | string {v : Value} : v.truthy = false → v.items? = none → v ≠ .null → v ≠ .string "" →
      Bare .string v v
  | falsehood : Bare .boolean (.bool false) (.bool false)
  | zeroWord : Bare .boolean (.int 0) (.bool false)
  | zero : Bare .number (.int 0) (.float (.finite false 0))
  | floatZero (negative : Bool) :
      Bare .number (.float (.finite negative 0)) (.float (.finite negative 0))
  | integerZero : Bare .integer (.int 0) (.int 0)
  | truncatedZero (negative : Bool) : Bare .integer (.float (.finite negative 0)) (.int 0)

namespace Kind

variable {k : Kind} {v r : Value}

theorem Bare.truthy_eq (h : k.Bare v r) : v.truthy = false := by
  cases h with
  | any hv _ _ _ => exact hv
  | string hv _ _ _ => exact hv
  | falsehood => rfl
  | zeroWord => rfl
  | zero => rfl
  | floatZero negative => rfl
  | integerZero => rfl
  | truncatedZero negative => rfl

theorem Bare.items?_eq (h : k.Bare v r) : v.items? = none := by
  cases h with
  | any _ hv _ _ => exact hv
  | string _ hv _ _ => exact hv
  | falsehood => rfl
  | zeroWord => rfl
  | zero => rfl
  | floatZero negative => rfl
  | integerZero => rfl
  | truncatedZero negative => rfl

/-- What is left bare is neither null nor a list. -/
theorem Bare.ne (h : k.Bare v r) : r ≠ .null ∧ ∀ items, r ≠ .list items := by
  have kept {w : Value} (hi : w.items? = none) (hn : w ≠ .null) :
      w ≠ .null ∧ ∀ items, w ≠ .list items := by
    refine ⟨hn, ?_⟩
    rintro items rfl
    simp [Value.items?] at hi
  cases h with
  | any _ hi hn _ => exact kept hi hn
  | string _ hi hn _ => exact kept hi hn
  | falsehood => simp
  | zeroWord => simp
  | zero => simp
  | floatZero negative => simp
  | integerZero => simp
  | truncatedZero negative => simp

end Kind

/-! ## Values that are not true -/

/-- The values that are not true and no sequences. -/
theorem Value.falsy_cases {v : Value} (hv : v.truthy = false) (hi : v.items? = none) :
    v = .null ∨ v = .bool false ∨ v = .int 0 ∨ (∃ negative, v = .float (.finite negative 0)) ∨
      v = .string "" ∨ v = .illFormed [] ∨ v = .bytes [] ∨ v = .map [] := by
  cases v with
  | null => simp
  | bool b => simpa [truthy] using hv
  | int n => simpa [truthy] using hv
  | float x =>
      cases x with
      | nan p => simp [truthy, Binary64.isNonzero] at hv
      | infinite s => simp [truthy, Binary64.isNonzero] at hv
      | finite s u => simpa [truthy, Binary64.isNonzero] using hv
  | string s => simpa [truthy] using hv
  | illFormed codes => simpa [truthy] using hv
  | bytes bs => simpa [truthy] using hv
  | list items => simp [items?] at hi
  | tuple items => simp [items?] at hi
  | map entries => simpa [truthy] using hv
  | kind k => simp [truthy] at hv
  | hook h => simp [truthy] at hv
  | upload u => simp [truthy] at hv
  | definition d => simp [truthy] at hv

theorem coerceBoolean_zero : coerceBoolean (.int 0) = .ok (.bool false) := by
  have hbound : (0 : Int).natAbs < Value.digitBound := by decide +kernel
  have hword : readBoolean? (Text.decimal 0) = some false :=
    readBoolean?_of_lower (Text.lower_trim_ascii rfl)
  rw [coerceBoolean, Value.integerText_eq_ok hbound, map_ok, hword]
  rfl

theorem coerceNumber_zero : coerceNumber (.int 0) = .ok (.float (.finite false 0)) := by
  rw [coerceNumber, Binary64.ofInt_zero]

theorem coerceInteger_floatZero (negative : Bool) :
    coerceInteger (.float (.finite negative 0)) = .ok (.int 0) := by
  have hzero : (Binary64.finite negative 0).truncate? = some 0 := by simp [Binary64.truncate?]
  rw [coerceInteger, hzero]
  rfl

/-- What is left bare is coerced as a whole. -/
theorem Kind.Bare.coerceScalar_eq {k : Kind} {v r : Value} (h : k.Bare v r) :
    coerceScalar k v = .ok r := by
  cases h with
  | any _ _ _ hs => exact congrArg Except.ok (coerceText_of_ne hs)
  | string _ _ _ hs => exact congrArg Except.ok (coerceText_of_ne hs)
  | falsehood => rfl
  | zeroWord => exact coerceBoolean_zero
  | zero => exact coerceNumber_zero
  | floatZero negative => rfl
  | integerZero => rfl
  | truncatedZero negative => exact coerceInteger_floatZero negative

/-- The texts of empty texts, bytes and maps, which are no numbers. -/
theorem not_read_empty : ∀ s ∈ ["", "b''", "\x7b\x7d"],
    readNumber? s.toList = none ∧ readInteger? s.toList = none := by
  decide +kernel

/-- Empty texts, bytes and maps are read through their texts. -/
theorem coerce_empty_eq {v : Value}
    (h : v = .string "" ∨ v = .illFormed [] ∨ v = .bytes [] ∨ v = .map []) :
    ∃ s ∈ ["", "b''", "\x7b\x7d"],
      coerceNumber v = .ok ((readNumber? s.toList).elim .null .float) ∧
        coerceInteger v = .ok ((readInteger? s.toList).elim .null .int) := by
  rcases h with rfl | rfl | rfl | rfl
  · exact ⟨"", by decide, rfl, rfl⟩
  · exact ⟨"", by decide, rfl, rfl⟩
  · exact ⟨"b''", by decide, rfl, rfl⟩
  · exact ⟨"\x7b\x7d", by decide, rfl, rfl⟩

/-- Empty texts, bytes and maps are coerced to no truth value and to no number. -/
theorem coerce_empty {v : Value}
    (h : v = .string "" ∨ v = .illFormed [] ∨ v = .bytes [] ∨ v = .map []) :
    coerceBoolean v = .ok .null ∧ coerceNumber v = .ok .null ∧ coerceInteger v = .ok .null := by
  refine ⟨?_, ?_⟩
  · rcases h with rfl | rfl | rfl | rfl
    · have hword : readBoolean? "" = none :=
        readBoolean?_of_lower (Text.lower_trim_ascii rfl)
      show Except.ok ((readBoolean? "").elim Value.null .bool) = _
      rw [hword]
      rfl
    · rfl
    · rfl
    · rfl
  · obtain ⟨s, hs, hn, hi⟩ := coerce_empty_eq h
    obtain ⟨hns, his⟩ := not_read_empty s hs
    rw [hn, hi, hns, his]
    exact ⟨rfl, rfl⟩

/-- A value that is not true and no sequence is coerced to null, or left bare. -/
theorem coerceScalar_of_falsy (k : Kind) {v : Value} (hv : v.truthy = false)
    (hi : v.items? = none) : coerceScalar k v = .ok .null ∨ ∃ r, k.Bare v r := by
  have kept (bare : v ≠ .null → v ≠ .string "" → k.Bare v v)
      (hk : coerceScalar k v = .ok (coerceText v)) :
      coerceScalar k v = .ok .null ∨ ∃ r, k.Bare v r := by
    rcases coerceText_eq v with ⟨-, hc⟩ | ⟨hs, hc⟩
    · exact Or.inl (by rw [hk, hc])
    · by_cases hn : v = .null
      · exact Or.inl (by rw [hk, hc, hn])
      · exact Or.inr ⟨v, bare hn hs⟩
  cases k with
  | any => exact kept (.any hv hi) rfl
  | string => exact kept (.string hv hi) rfl
  | boolean =>
      rcases Value.falsy_cases hv hi with rfl | rfl | rfl | ⟨s, rfl⟩ | he
      · exact Or.inl rfl
      · exact Or.inr ⟨_, .falsehood⟩
      · exact Or.inr ⟨_, .zeroWord⟩
      · exact Or.inl rfl
      · exact Or.inl (coerce_empty he).1
  | number =>
      rcases Value.falsy_cases hv hi with rfl | rfl | rfl | ⟨s, rfl⟩ | he
      · exact Or.inl rfl
      · exact Or.inl rfl
      · exact Or.inr ⟨_, .zero⟩
      · exact Or.inr ⟨_, .floatZero s⟩
      · exact Or.inl (coerce_empty he).2.1
  | integer =>
      rcases Value.falsy_cases hv hi with rfl | rfl | rfl | ⟨s, rfl⟩ | he
      · exact Or.inl rfl
      · exact Or.inl rfl
      · exact Or.inr ⟨_, .integerZero⟩
      · exact Or.inr ⟨_, .truncatedZero s⟩
      · exact Or.inl (coerce_empty he).2.2

/-! ## Under the array flag -/

/-- Values that are true, and sequences of any length, become lists. -/
theorem coerce_array_list {k : Kind} {v r : Value} (h : coerce k true v = .ok r)
    (hv : v.truthy = true ∨ v.items?.isSome = true) : ∃ items, r = .list items := by
  cases hi : v.items? with
  | some items =>
      rw [coerce_nested k true hi] at h
      obtain ⟨cs, -, hr⟩ := bind_eq_ok_iff.1 h
      exact ⟨cs, (Except.ok.inj hr).symm⟩
  | none =>
      have ht : v.truthy = true := by simpa [hi] using hv
      rw [coerce_single k true hi, coerceSingle_eq, ht] at h
      obtain ⟨cs, -, hr⟩ := bind_eq_ok_iff.1 h
      exact ⟨cs, (Except.ok.inj hr).symm⟩

/-- The flag does not keep a value that is not true from being coerced as a whole. -/
theorem coerce_array_of_falsy (k : Kind) {v : Value} (hv : v.truthy = false)
    (hi : v.items? = none) : coerce k true v = coerceScalar k v := by
  rw [coerce_single k true hi, coerceSingle_eq, hv]
  rfl

/-- Under the array flag coercion gives null, a list, or what the type leaves bare, and what it
leaves bare comes from a value that is not true and no sequence. -/
theorem coerce_array_shape (k : Kind) (v r : Value) :
    ((coerce k true v = .ok r ∧ r ≠ .null ∧ ∀ items, r ≠ .list items) ↔ k.Bare v r) ∧
      (k.Bare v r → v.truthy = false ∧ v.items? = none) := by
  refine ⟨⟨?_, ?_⟩, fun h => ⟨h.truthy_eq, h.items?_eq⟩⟩
  · rintro ⟨h, hnull, hlist⟩
    have nolist (hv : v.truthy = true ∨ v.items?.isSome = true) : False := by
      obtain ⟨items, hr⟩ := coerce_array_list h hv
      exact hlist items hr
    have ht : v.truthy = false := by
      cases ht : v.truthy with
      | true => exact (nolist (Or.inl ht)).elim
      | false => rfl
    have hi : v.items? = none := by
      cases hi : v.items? with
      | some items => exact (nolist (Or.inr (by rw [hi]; rfl))).elim
      | none => rfl
    rw [coerce_array_of_falsy k ht hi] at h
    rcases coerceScalar_of_falsy k ht hi with hn | ⟨r', hb⟩
    · exact absurd (Except.ok.inj (h.symm.trans hn)) hnull
    · obtain rfl := Except.ok.inj (h.symm.trans hb.coerceScalar_eq)
      exact hb
  · intro h
    rw [coerce_array_of_falsy k h.truthy_eq h.items?_eq]
    exact ⟨h.coerceScalar_eq, h.ne⟩

/-- Minus zero is left bare, as an integer. -/
theorem coerce_array_shape_truncated :
    (Kind.integer.Bare (.float (.finite true 0)) (.int 0)) ∧
      coerce .integer true (.float (.finite true 0)) = .ok (.int 0) := by
  have h : Kind.integer.Bare (.float (.finite true 0)) (.int 0) := .truncatedZero true
  exact ⟨h, ((coerce_array_shape _ _ _).1.2 h).1⟩

/-- The integer zero comes out bare where an array of integers is declared. -/
theorem coerce_array_zero :
    coerce .integer true (.int 0) = .ok (.int 0) ∧ Value.int 0 ≠ .null ∧
      ∀ items, Value.int 0 ≠ .list items :=
  ⟨rfl, by simp, by simp⟩

end ParamGate
