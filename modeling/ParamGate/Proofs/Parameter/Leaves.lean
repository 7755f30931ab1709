import ParamGate.Proofs.Parameter.ArrayShape

/-!
# Coercion leaf by leaf

A list or a tuple keeps its shape: coercion gives a list of the same length with the same nesting at
every position, and each leaf is coerced as a whole, whatever the array flag says.
`Kind.Leafwise` is this relation between a value and its result, and `coerceAs_leafwise` that every
result has it and has leaves of the declared type only.

A result is left alone when it is coerced once more, to the same type and with the same flag
(`coerceAs_again`). Its leaves are values of the type already, and the flag does not change a second
pass: what it splits or wraps in the first one is a list by then, and what it leaves bare is not
true.
-/

namespace ParamGate

/-! ## The shape of a nested value -/

/-- The second value is made of the first one leaf by leaf, in lists of the same lengths at every
level. -/
inductive Kind.Leafwise (k : Kind) : Value → Value → Prop
  | leaf {v c : Value} : v.items? = none → coerceScalar k v = .ok c → c.items? = none →
      Leafwise k v c
  | nested {v : Value} {items results : List Value} : v.items? = some items →
      List.Forall₂ (Leafwise k) items results → Leafwise k v (.list results)

theorem Kind.Admits.items?_eq_none {k : Kind} {v : Value} (h : k.Admits v) : v.items? = none := by
  cases k with
  | any => exact h.2
  | string => exact h.2
  | boolean =>
      rcases h with rfl | ⟨b, rfl⟩
      · rfl
      · rfl
  | number =>
      rcases h with rfl | ⟨x, rfl, -⟩
      · rfl
      · rfl
  | integer =>
      rcases h with rfl | ⟨n, rfl⟩
      · rfl
      · rfl

/-- Without the flag, coercion is the relation leaf by leaf. -/
theorem coerce_eq_ok_iff_leafwise (k : Kind) (v r : Value) :
    coerce k false v = .ok r ↔ k.Leafwise v r := by
  induction v using Value.nestInduction generalizing r with
  | single v hv =>
      have hwhole : coerce k false v = coerceScalar k v := by
        rw [coerce_single k false hv, coerceSingle_eq]
        rfl
      rw [hwhole]
      constructor
      · intro h
        exact .leaf hv h (coerceScalar_admits hv h).items?_eq_none
      · intro h
        cases h with
        | leaf _ h _ => exact h
        | nested hi _ => simp [hv] at hi
  | nested v items hv ih =>
      have hitems (results : List Value) : items.mapM (coerce k false) = .ok results ↔
          List.Forall₂ k.Leafwise items results := mapM_eq_ok_iff_forall₂ ih
      rw [coerce_nested k false hv, bind_eq_ok_iff]
      constructor
      · rintro ⟨results, hm, hr⟩
        obtain rfl := Except.ok.inj hr
        exact .nested hv ((hitems results).1 hm)
      · intro h
        cases h with
        | leaf hn _ _ => simp [hv] at hn
        | nested hi hrelated =>
            obtain rfl := Option.some.inj (hv.symm.trans hi)
            exact ⟨_, (hitems _).2 hrelated, rfl⟩

/-- The flag is not looked at for a list or a tuple. -/
theorem coerce_nested_flag (k : Kind) (array : Bool) {v : Value}
    (hv : v.items?.isSome = true) : coerce k array v = coerce k false v := by
  obtain ⟨items, hi⟩ := Option.isSome_iff_exists.1 hv
  rw [coerce_nested k array hi, coerce_nested k false hi]

/-- Coercion gives leaves of the declared type, and keeps the shape of a list or a tuple. -/
theorem coerceAs_leafwise {type array v r : Value} (h : coerceAs type array v = .ok r) :
    ∃ k, Kind.parse type = .ok k ∧ r.OfKind k ∧ (v.items?.isSome = true → k.Leafwise v r) := by
  obtain ⟨k, hk, h⟩ := bind_eq_ok_iff.1 h
  refine ⟨k, hk, coerce_ofKind h, ?_⟩
  intro hv
  rw [coerce_nested_flag k _ hv] at h
  exact (coerce_eq_ok_iff_leafwise k v r).1 h

/-- The texts in a list are not split where an array is declared, and an empty tuple is kept. -/
theorem coerceAs_leafwise_tuple :
    coerceAs (.string " Int") (.bool true)
        (.tuple [.list [.string " 7px,8", .bool true], .tuple [], .string ""]) =
          .ok (.list [.list [.int 7, .null], .list [], .null]) ∧
      (Value.list [.list [.int 7, .null], .list [], .null]).OfKind .integer ∧
      Kind.integer.Leafwise (.tuple [.list [.string " 7px,8", .bool true], .tuple [], .string ""])
        (.list [.list [.int 7, .null], .list [], .null]) := by
  have htoken : Kind.ofToken? " Int" = some .integer :=
    congrArg Kind.ofName? (Text.lower_trim_ascii rfl)
  have hkind : Kind.parse (.string " Int") = .ok .integer := Kind.parse_of_ofToken? htoken
  have h : coerceAs (.string " Int") (.bool true)
      (.tuple [.list [.string " 7px,8", .bool true], .tuple [], .string ""]) =
        .ok (.list [.list [.int 7, .null], .list [], .null]) := by
    rw [coerceAs, hkind, ok_bind]
    rfl
  obtain ⟨k, hk, hleaves, hshape⟩ := coerceAs_leafwise h
  obtain rfl : Kind.integer = k := Except.ok.inj (hkind.symm.trans hk)
  exact ⟨h, hleaves, hshape rfl⟩

/-! ## A second pass -/

/-- A leaf of the type is left alone. -/
theorem coerceScalar_of_admits {k : Kind} {v : Value} (h : k.Admits v) :
    coerceScalar k v = .ok v := by
  cases k with
  | any => exact congrArg Except.ok (coerceText_of_ne h.1)
  | string => exact congrArg Except.ok (coerceText_of_ne h.1)
  | boolean =>
      rcases h with rfl | ⟨b, rfl⟩
      · rfl
      · rfl
  | number =>
      rcases h with rfl | ⟨x, rfl, hx⟩
      · rfl
      · show Except.ok (if x.isNaN then Value.null else .float x) = _
        rw [hx]
        rfl
  | integer =>
      rcases h with rfl | ⟨n, rfl⟩
      · rfl
      · rfl

/-- Without the flag, a value of the type is left alone. -/
theorem coerce_of_ofKind {k : Kind} {v : Value} (h : v.OfKind k) : coerce k false v = .ok v := by
  induction h with
  | single ha =>
      rw [coerce_eq_ok_iff_leafwise]
      exact .leaf ha.items?_eq_none (coerceScalar_of_admits ha) ha.items?_eq_none
  | @list items _ ih =>
      rw [coerce_eq_ok_iff_leafwise]
      refine .nested rfl (List.forall₂_same.2 ?_)
      intro v hv
      exact (coerce_eq_ok_iff_leafwise k v v).1 (ih v hv)

theorem Kind.Bare.result_falsy {k : Kind} {v r : Value} (h : k.Bare v r) : r.truthy = false := by
  cases h with
  | any hv _ _ _ => exact hv
  | string hv _ _ _ => exact hv
  | falsehood => rfl
  | zeroWord => rfl
  | zero => rfl
  | floatZero negative => rfl
  | integerZero => rfl
  | truncatedZero negative => rfl

/-- Under the flag a result is a list or not true. -/
theorem coerce_array_result {k : Kind} {v r : Value} (h : coerce k true v = .ok r) :
    r.items?.isSome = true ∨ r.truthy = false := by
  by_cases hv : v.truthy = true ∨ v.items?.isSome = true
  · obtain ⟨items, rfl⟩ := coerce_array_list h hv
    exact Or.inl rfl
  · obtain ⟨ht, hi⟩ := not_or.1 hv
    have ht : v.truthy = false := by simpa using ht
    have hi : v.items? = none := by simpa using hi
    rw [coerce_array_of_falsy k ht hi] at h
    refine Or.inr ?_
    rcases coerceScalar_of_falsy k ht hi with hn | ⟨r', hb⟩
    · obtain rfl := Except.ok.inj (h.symm.trans hn)
      rfl
    · obtain rfl := Except.ok.inj (h.symm.trans hb.coerceScalar_eq)
      exact hb.result_falsy

/-- The flag has no meaning for a list, nor for a value that is not true. -/
theorem coerce_flag_irrelevant (k : Kind) {v : Value}
    (hv : v.items?.isSome = true ∨ v.truthy = false) : coerce k true v = coerce k false v := by
  cases hi : v.items? with
  | some items => exact coerce_nested_flag k true (by rw [hi]; rfl)
  | none =>
      have ht : v.truthy = false := by simpa [hi] using hv
      rw [coerce_array_of_falsy k ht hi, coerce_single k false hi, coerceSingle_eq]
      rfl

/-- A result is left alone by the coercion that gave it. -/
theorem coerceAs_again {type array v r : Value} (h : coerceAs type array v = .ok r) :
    coerceAs type array r = .ok r := by
  obtain ⟨k, hk, h⟩ := bind_eq_ok_iff.1 h
  have hfixed : coerce k false r = .ok r := coerce_of_ofKind (coerce_ofKind h)
  rw [coerceAs, hk, ok_bind]
  cases ha : array.truthy with
  | false => exact hfixed
  | true =>
      rw [ha] at h
      rw [coerce_flag_irrelevant k (coerce_array_result h)]
      exact hfixed

/-- A split text with an empty part, and a not-a-number that is put into a list, which is the same
one after the second pass. -/
theorem coerceAs_again_parts :
    (coerceAs (.kind .string) (.bool true) (.string "a,,b") =
        .ok (.list [.string "a", .null, .string "b"]) ∧
      coerceAs (.kind .string) (.bool true) (.list [.string "a", .null, .string "b"]) =
        .ok (.list [.string "a", .null, .string "b"])) ∧
    coerceAs (.kind .any) (.int 1) (.float (.nan 3)) = .ok (.list [.float (.nan 3)]) ∧
      coerceAs (.kind .any) (.int 1) (.list [.float (.nan 3)]) = .ok (.list [.float (.nan 3)]) := by
  have hparts : coerceAs (.kind .string) (.bool true) (.string "a,,b") =
      .ok (.list [.string "a", .null, .string "b"]) := rfl
  have hnan : coerceAs (.kind .any) (.int 1) (.float (.nan 3)) =
      .ok (.list [.float (.nan 3)]) := rfl
  exact ⟨⟨hparts, coerceAs_again hparts⟩, hnan, coerceAs_again hnan⟩

end ParamGate
