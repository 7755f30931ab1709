import ParamGate.Parameter.Coercion
import ParamGate.Proofs.Value.Json

/-!
# What coercion gives

Coercion maps a value of any nesting to a value of the declared type: `Value.OfKind k` says that
every leaf reached through nested lists is one that the type admits, and `coerce_ofKind` proves it
of every result. Only the digit limit can keep a value from being coerced, and `Kind.Overflows`
says which values it keeps from it (`coerce_limitedBy`). The values of JSON texts can all be coerced
(`coerce_json_eq_ok`), and a type of texts turns them into values of JSON texts again
(`coerce_text_json`).

Proofs about coercion follow the nesting of the value, by `Value.nestInduction`.
-/

namespace ParamGate

/-- Induction over the lists and tuples that a value is nested in. -/
theorem Value.nestInduction {motive : Value → Prop}
    (single : ∀ v : Value, v.items? = none → motive v)
    (nested : ∀ (v : Value) (items : List Value), v.items? = some items →
      (∀ w ∈ items, motive w) → motive v) (v : Value) : motive v := by
  -- coercion goes down into lists and tuples only, so maps and definitions count as leaves
  cases v with
  | list items => exact nested _ items rfl fun w _ => nestInduction single nested w
  | tuple items => exact nested _ items rfl fun w _ => nestInduction single nested w
  | null => exact single _ rfl
  | bool b => exact single _ rfl
  | int n => exact single _ rfl
  | float x => exact single _ rfl
  | string s => exact single _ rfl
  | illFormed codes => exact single _ rfl
  | bytes bs => exact single _ rfl
  | map entries => exact single _ rfl
  | kind k => exact single _ rfl
  | hook h => exact single _ rfl
  | upload u => exact single _ rfl
  | definition d => exact single _ rfl
termination_by sizeOf v

/-- Values that coercion as a whole may give. -/
def Kind.Admits : Kind → Value → Prop
  | .any, v => v ≠ .string "" ∧ v.items? = none
  | .string, v => v ≠ .string "" ∧ v.items? = none
  | .boolean, v => v = .null ∨ ∃ b, v = .bool b
  | .number, v => v = .null ∨ ∃ x, v = .float x ∧ x.isNaN = false
  | .integer, v => v = .null ∨ ∃ n, v = .int n

/-- Values whose leaves, through nested lists, are admitted by a type. -/
inductive Value.OfKind (k : Kind) : Value → Prop
  | single {v : Value} : k.Admits v → OfKind k v
  | list {items : List Value} : (∀ v ∈ items, OfKind k v) → OfKind k (.list items)

/-! ## Numbers that are read -/

theorem Binary64.isNaN_ofRatio (negative : Bool) (num den : Nat) :
    (ofRatio negative num den).isNaN = false := by
  unfold ofRatio
  simp only
  split <;> rfl

theorem Binary64.isNaN_ofInt (n : Int) : (ofInt n).isNaN = false := by
  unfold ofInt
  exact isNaN_ofRatio _ _ _

theorem Binary64.isNaN_ofDecimal (negative : Bool) (digits : Nat) (exponent : Int) :
    (ofDecimal negative digits exponent).isNaN = false := by
  unfold ofDecimal
  split
  · rfl
  split
  · rfl
  split
  · rfl
  split
  · exact isNaN_ofRatio _ _ _
  · exact isNaN_ofRatio _ _ _

/-- What is read at the front of a text is the number of some decimal. -/
theorem Binary64.takeDecimal?_eq_some {value? : Char → Option Nat} {negative : Bool}
    {cs : List Char} {x : Binary64} {rest : List Char}
    (h : takeDecimal? value? negative cs = some (x, rest)) :
    ∃ digits exponent, x = ofDecimal negative digits exponent := by
  -- with a point or without one, the digits that were read decide in the same way
  have key : ∀ {p : Prop} [Decidable p] {d : Nat} {e : Int} {r : List Char},
      (if p then none else some (ofDecimal negative d e, r)) = some (x, rest) →
        ∃ digits exponent, x = ofDecimal negative digits exponent := by
    intro p _ d e r hp
    split at hp
    · exact absurd hp (by simp)
    · obtain ⟨rfl, -⟩ := Prod.mk.inj (Option.some.inj hp)
      exact ⟨d, e, rfl⟩
  unfold takeDecimal? at h
  simp only at h
  split at h
  · exact key h
  · exact key h

theorem Binary64.isNaN_takeDecimal? {value? : Char → Option Nat} {negative : Bool} {cs : List Char}
    {x : Binary64} {rest : List Char} (h : takeDecimal? value? negative cs = some (x, rest)) :
    x.isNaN = false := by
  obtain ⟨digits, exponent, rfl⟩ := takeDecimal?_eq_some h
  exact isNaN_ofDecimal negative digits exponent

/-- No text is read as a not-a-number. -/
theorem isNaN_readNumber? {cs : List Char} {x : Binary64} (h : readNumber? cs = some x) :
    x.isNaN = false := by
  unfold readNumber? at h
  simp only at h
  split at h
  · cases h
    rfl
  · obtain ⟨⟨y, rest⟩, hy, rfl⟩ := Option.map_eq_some_iff.1 h
    exact Binary64.isNaN_takeDecimal? hy

/-! ## Single values -/

theorem coerceText_eq (v : Value) : v = .string "" ∧ coerceText v = .null ∨
    v ≠ .string "" ∧ coerceText v = v := by
  unfold coerceText
  split
  · exact Or.inl ⟨rfl, rfl⟩
  · rename_i h
    exact Or.inr ⟨h, rfl⟩

/-- What is not the empty text is kept. -/
theorem coerceText_of_ne {v : Value} (hv : v ≠ .string "") : coerceText v = v := by
  rcases coerceText_eq v with ⟨he, -⟩ | ⟨-, hc⟩
  · exact absurd he hv
  · exact hc

theorem coerceText_admits {v : Value} (hv : v.items? = none) :
    Kind.string.Admits (coerceText v) := by
  rcases coerceText_eq v with ⟨-, h⟩ | ⟨hne, h⟩
  · rw [h]
    exact ⟨by simp, rfl⟩
  · rw [h]
    exact ⟨hne, hv⟩

/-- A word is looked up in lower case and without the blanks around it. -/
theorem readBoolean?_of_lower {s word : String} (h : Text.lower (Text.trim s) = word) :
    readBoolean? s = if trueWords.contains word then some true
      else if falseWords.contains word then some false else none := by
  subst h
  rfl

theorem coerceBoolean_admits {v c : Value} (h : coerceBoolean v = .ok c) :
    Kind.boolean.Admits c := by
  -- the branches for integers and for texts both look a word up
  have word (s : String) : Kind.boolean.Admits ((readBoolean? s).elim .null .bool) := by
    cases readBoolean? s with
    | none => exact Or.inl rfl
    | some b => exact Or.inr ⟨b, rfl⟩
  unfold coerceBoolean at h
  simp only at h
  split at h
  · cases h
    exact Or.inr ⟨_, rfl⟩
  · obtain ⟨s, -, rfl⟩ := map_eq_ok_iff.1 h
    exact word s
  · split at h
    · obtain rfl := Except.ok.inj h
      exact word _
    · cases h
      exact Or.inl rfl

theorem coerceNumber_admits {v c : Value} (h : coerceNumber v = .ok c) :
    Kind.number.Admits c := by
  unfold coerceNumber at h
  split at h
  · cases h
    exact Or.inl rfl
  · cases h
    exact Or.inl rfl
  · rename_i x
    -- a number that is none is the one floating number that is dropped
    cases hx : x.isNaN with
    | true =>
        rw [hx] at h
        cases h
        exact Or.inl rfl
    | false =>
        rw [hx] at h
        cases h
        exact Or.inr ⟨x, rfl, hx⟩
  · obtain rfl := Except.ok.inj h
    exact Or.inr ⟨_, rfl, Binary64.isNaN_ofInt _⟩
  · obtain ⟨s, -, rfl⟩ := map_eq_ok_iff.1 h
    cases hs : readNumber? s.toList with
    | none => exact Or.inl rfl
    | some x => exact Or.inr ⟨x, rfl, isNaN_readNumber? hs⟩

theorem coerceInteger_admits {v c : Value} (h : coerceInteger v = .ok c) :
    Kind.integer.Admits c := by
  unfold coerceInteger at h
  split at h
  · cases h
    exact Or.inl rfl
  · cases h
    exact Or.inl rfl
  · cases h
    exact Or.inr ⟨_, rfl⟩
  · rename_i x
    cases h
    cases x.truncate? with
    | none => exact Or.inl rfl
    | some n => exact Or.inr ⟨n, rfl⟩
  · obtain ⟨s, -, rfl⟩ := map_eq_ok_iff.1 h
    cases readInteger? s.toList with
    | none => exact Or.inl rfl
    | some n => exact Or.inr ⟨n, rfl⟩

/-- A value coerced as a whole is one that the type admits. -/
theorem coerceScalar_admits {k : Kind} {v c : Value} (hv : v.items? = none)
    (h : coerceScalar k v = .ok c) : k.Admits c := by
  cases k with
  | any =>
      cases h
      exact coerceText_admits hv
  | string =>
      cases h
      exact coerceText_admits hv
  | boolean => exact coerceBoolean_admits h
  | number => exact coerceNumber_admits h
  | integer => exact coerceInteger_admits h

/-! ## Nested values -/

theorem coerce_single (k : Kind) (array : Bool) {v : Value} (hv : v.items? = none) :
    coerce k array v = coerceSingle k array v := by
  cases v with
  | list items => simp [Value.items?] at hv
  | tuple items => simp [Value.items?] at hv
  | _ => simp only [coerce]

theorem coerceItems_eq (k : Kind) (items : List Value) :
    coerceItems k items = items.mapM (coerce k false) := by
  induction items with
  | nil => rw [coerceItems]; rfl
  | cons v vs ih => rw [coerceItems, mapM_cons, ih]

/-- The items of a list or a tuple are coerced one by one, without the flag. -/
theorem coerce_nested (k : Kind) (array : Bool) {v : Value} {items : List Value}
    (hv : v.items? = some items) :
    coerce k array v = items.mapM (coerce k false) >>= fun cs => .ok (.list cs) := by
  cases v with
  | list vs =>
      obtain rfl : vs = items := Option.some.inj hv
      rw [coerce, coerceItems_eq]
  | tuple vs =>
      obtain rfl : vs = items := Option.some.inj hv
      rw [coerce, coerceItems_eq]
  | _ => simp [Value.items?] at hv

theorem coerceParts_eq (k : Kind) (parts : List Value) :
    coerceParts k parts = parts.mapM (coerceScalar k) := by
  induction parts with
  | nil => rfl
  | cons v vs ih => rw [coerceParts, mapM_cons, ih]

/-- The parts of a value under the array flag: the texts between the commas of a text, and the value
itself otherwise. -/
def arrayParts (v : Value) : List Value := (v.codes?.map commaParts).getD [v]

theorem mem_arrayParts {v p : Value} (hp : p ∈ arrayParts v) : p = v ∨ p.IsText := by
  unfold arrayParts at hp
  -- a value that is no text is its own only part
  cases hc : v.codes? with
  | none =>
      rw [hc] at hp
      exact Or.inl (List.mem_singleton.1 hp)
  | some codes =>
      rw [hc] at hp
      obtain ⟨part, -, rfl⟩ := List.mem_map.1 hp
      exact Or.inr (Value.ofCodes_isText part)

theorem Value.IsText.items?_eq_none {v : Value} (h : v.IsText) : v.items? = none := by
  rcases h with ⟨s, rfl⟩ | ⟨codes, rfl⟩
  · rfl
  · rfl

theorem Value.IsText.isJson {v : Value} (h : v.IsText) : v.IsJson := by
  rcases h with ⟨s, rfl⟩ | ⟨codes, rfl⟩
  · exact .string s
  · exact .illFormed codes

theorem coerceSingle_eq (k : Kind) (array : Bool) (v : Value) :
    coerceSingle k array v =
      if array && v.truthy then
        (arrayParts v).mapM (coerceScalar k) >>= fun cs => .ok (.list cs)
      else coerceScalar k v := by
  rw [← coerceParts_eq]
  rfl

/-- Neither a value that is no list nor a part of its text is a list. -/
theorem items?_of_mem_arrayParts {v p : Value} (hv : v.items? = none) (hp : p ∈ arrayParts v) :
    p.items? = none := by
  rcases mem_arrayParts hp with rfl | ht
  · exact hv
  · exact ht.items?_eq_none

/-- Coercion gives values of the type, whatever the nesting and the flag. -/
theorem coerce_ofKind {k : Kind} {array : Bool} {v c : Value} (h : coerce k array v = .ok c) :
    c.OfKind k := by
  -- the flag does not reach the items of a list, so the hypothesis has to hold for every flag
  induction v using Value.nestInduction generalizing array c with
  | single v hv =>
      rw [coerce_single k array hv, coerceSingle_eq] at h
      split at h
      · obtain ⟨cs, hcs, h⟩ := bind_eq_ok_iff.1 h
        cases h
        refine .list ?_
        intro c hc
        obtain ⟨p, hp, hpc⟩ := mem_of_mapM hcs hc
        exact .single (coerceScalar_admits (items?_of_mem_arrayParts hv hp) hpc)
      · exact .single (coerceScalar_admits hv h)
  | nested v items hv ih =>
      rw [coerce_nested k array hv] at h
      obtain ⟨cs, hcs, h⟩ := bind_eq_ok_iff.1 h
      cases h
      refine .list ?_
      intro c hc
      obtain ⟨w, hw, hwc⟩ := mem_of_mapM hcs hc
      exact ih w hw hwc

/-! ## Faults -/

/-- Values that a type cannot coerce: integers of more than 4300 digits where words are looked up,
and maps and declarations with such an integer in them where numbers are read from texts. In a list
or a tuple one item is enough. -/
inductive Kind.Overflows : Kind → Value → Prop
  | word {n : Int} : Value.digitBound ≤ n.natAbs → Overflows .boolean (.int n)
  | map {k : Kind} {entries : List (Value × Value)} : k = .number ∨ k = .integer →
      (Value.map entries).Oversized → Overflows k (.map entries)
  | definition {k : Kind} {d : Definition} : k = .number ∨ k = .integer →
      (Value.definition d).Oversized → Overflows k (.definition d)
  | item {k : Kind} {v w : Value} {items : List Value} : v.items? = some items → w ∈ items →
      Overflows k w → Overflows k v

/-- Only values with an integer beyond the limit cannot be coerced. -/
theorem Kind.Overflows.oversized {k : Kind} {v : Value} (h : k.Overflows v) : v.Oversized := by
  induction h with
  | word hn => exact .int hn
  | map _ ho => exact ho
  | definition _ ho => exact ho
  | @item k v w items hv hw _ ih =>
      cases v with
      | list vs =>
          obtain rfl := Option.some.inj hv
          exact .list hw ih
      | tuple vs =>
          obtain rfl := Option.some.inj hv
          exact .tuple hw ih
      | _ => simp [Value.items?] at hv

/-- What a value that is no sequence is if a type cannot coerce it. -/
theorem Kind.Overflows.single {k : Kind} {v : Value} (h : k.Overflows v) (hv : v.items? = none) :
    (k = .boolean ∧ ∃ n, v = .int n ∧ Value.digitBound ≤ n.natAbs) ∨
      (k = .number ∨ k = .integer) ∧
        ((∃ entries, v = .map entries) ∨ ∃ d, v = .definition d) := by
  cases h with
  | word hn => exact Or.inl ⟨rfl, _, rfl, hn⟩
  | map hk _ => exact Or.inr ⟨hk, Or.inl ⟨_, rfl⟩⟩
  | definition hk _ => exact Or.inr ⟨hk, Or.inr ⟨_, rfl⟩⟩
  | item hi _ _ => simp [hv] at hi

/-- A value that is neither a number nor a sequence has a text unless a type of numbers cannot
coerce it. -/
theorem text_limitedBy_overflows {k : Kind} (hk : k = .number ∨ k = .integer) {v : Value}
    (hv : v.items? = none) (hint : ∀ n, v ≠ .int n) : LimitedBy (k.Overflows v) v.text := by
  refine (Value.text_limitedBy v).congr ⟨?_, Kind.Overflows.oversized⟩
  intro h
  cases h with
  | int _ => exact absurd rfl (hint _)
  | list _ _ => simp [Value.items?] at hv
  | tuple _ _ => simp [Value.items?] at hv
  | name he h => exact .map hk (.name he h)
  | entry he h => exact .map hk (.entry he h)
  | field he h => exact .definition hk (.field he h)

/-- A value coerced as a whole fails when the type cannot coerce it. -/
theorem coerceScalar_limitedBy (k : Kind) {v : Value} (hv : v.items? = none) :
    LimitedBy (k.Overflows v) (coerceScalar k v) := by
  -- the types of numbers read a text only of values that are no numbers themselves
  have number (hmap : ∀ entries, v ≠ .map entries) (hdef : ∀ d, v ≠ .definition d)
      (hk : k ≠ .boolean) : ¬ k.Overflows v := by
    intro h
    rcases h.single hv with ⟨rfl, -⟩ | ⟨-, ⟨entries, he⟩ | ⟨d, hd⟩⟩
    · exact hk rfl
    · exact hmap entries he
    · exact hdef d hd
  cases k with
  | any => exact limitedBy_of_not (fun h => by simpa using h.single hv) _
  | string => exact limitedBy_of_not (fun h => by simpa using h.single hv) _
  | boolean =>
      have word (hint : ∀ n, v ≠ .int n) : ¬ Kind.boolean.Overflows v := by
        intro h
        obtain ⟨-, n, hn, -⟩ | ⟨hk, -⟩ := h.single hv
        · exact hint n hn
        · simp at hk
      show LimitedBy _ (coerceBoolean v)
      unfold coerceBoolean
      simp only
      split
      · exact limitedBy_of_not (word nofun) _
      -- an integer is read as a word, so its text is needed
      · refine ((Value.integerText_limitedBy _).map _).congr ⟨.word, ?_⟩
        intro h
        obtain ⟨-, n, hn, hbound⟩ | ⟨hk, -⟩ := h.single hv
        · obtain rfl := Value.int.inj hn
          exact hbound
        · simp at hk
      · rename_i hint
        split
        · exact limitedBy_of_not (word fun n hn => hint n hn) _
        · exact limitedBy_of_not (word fun n hn => hint n hn) _
  | number =>
      show LimitedBy _ (coerceNumber v)
      unfold coerceNumber
      split
      · exact limitedBy_of_not (number nofun nofun nofun) _
      · exact limitedBy_of_not (number nofun nofun nofun) _
      · exact limitedBy_of_not (number nofun nofun nofun) _
      · exact limitedBy_of_not (number nofun nofun nofun) _
      · rename_i hint
        exact (text_limitedBy_overflows (Or.inl rfl) hv fun n hn => hint n hn).map _
  | integer =>
      show LimitedBy _ (coerceInteger v)
      unfold coerceInteger
      split
      · exact limitedBy_of_not (number nofun nofun nofun) _
      · exact limitedBy_of_not (number nofun nofun nofun) _
      · exact limitedBy_of_not (number nofun nofun nofun) _
      · exact limitedBy_of_not (number nofun nofun nofun) _
      · rename_i hint _
        exact (text_limitedBy_overflows (Or.inr rfl) hv fun n hn => hint n hn).map _

/-- Texts can always be coerced. -/
theorem Value.IsText.not_overflows {k : Kind} {v : Value} (h : v.IsText) : ¬ k.Overflows v :=
  fun ho => h.not_oversized ho.oversized

/-- The parts under the array flag are the value itself or texts, so they fail when it does. -/
theorem overflows_arrayParts_iff {k : Kind} {v : Value} :
    (∃ p ∈ arrayParts v, k.Overflows p) ↔ k.Overflows v := by
  constructor
  · rintro ⟨p, hp, ho⟩
    rcases mem_arrayParts hp with rfl | ht
    · exact ho
    · exact absurd ho ht.not_overflows
  · intro ho
    have hcodes : v.codes? = none := by
      cases ho with
      | word _ => rfl
      | map _ _ => rfl
      | definition _ _ => rfl
      | item hi _ _ =>
          cases v with
          | list items => rfl
          | tuple items => rfl
          | _ => simp [Value.items?] at hi
    exact ⟨v, by simp [arrayParts, hcodes], ho⟩

/-- Coercion fails for the values that the type cannot coerce, and for no others. -/
theorem coerce_limitedBy (k : Kind) (array : Bool) (v : Value) :
    LimitedBy (k.Overflows v) (coerce k array v) := by
  induction v using Value.nestInduction generalizing array with
  | single v hv =>
      rw [coerce_single k array hv, coerceSingle_eq]
      split
      · have hparts : LimitedBy (∃ p ∈ arrayParts v, k.Overflows p)
            ((arrayParts v).mapM (coerceScalar k)) :=
          LimitedBy.mapM fun p hp => coerceScalar_limitedBy k (items?_of_mem_arrayParts hv hp)
        exact (hparts.bind fun _ => limitedBy_ok _).congr (by rw [or_false, overflows_arrayParts_iff])
      · exact coerceScalar_limitedBy k hv
  | nested v items hv ih =>
      rw [coerce_nested k array hv]
      have hitems := LimitedBy.mapM fun w hw => ih w hw false
      refine (hitems.bind fun _ => limitedBy_ok _).congr ?_
      rw [or_false]
      constructor
      · rintro ⟨w, hw, ho⟩
        exact .item hv hw ho
      · intro h
        cases h with
        | word _ => simp [Value.items?] at hv
        | map _ _ => simp [Value.items?] at hv
        | definition _ _ => simp [Value.items?] at hv
        | item hi hw ho =>
            obtain rfl := Option.some.inj (hv.symm.trans hi)
            exact ⟨_, hw, ho⟩

/-- Coercion to a type fails only at the digit limit. -/
theorem limited_coerce (k : Kind) (array : Bool) (v : Value) : Limited (coerce k array v) :=
  (coerce_limitedBy k array v).limited

/-- With a type that is one of the types, coercion is the one to that type. -/
theorem coerceAs_kind (k : Kind) (array v : Value) :
    coerceAs (.kind k) array v = coerce k array.truthy v := by
  rw [coerceAs, Kind.parse, ok_bind]

/-! ## Values of JSON texts -/

theorem arrayParts_json {v p : Value} (h : v.IsJson) (hp : p ∈ arrayParts v) : p.IsJson := by
  rcases mem_arrayParts hp with rfl | ht
  · exact h
  · exact ht.isJson

/-- The items of a value of a JSON text are such values; no JSON text denotes a tuple. -/
theorem Value.IsJson.item {v w : Value} {items : List Value} (h : v.IsJson)
    (hv : v.items? = some items) (hw : w ∈ items) : w.IsJson := by
  cases h with
  | list hitems =>
      obtain rfl := Option.some.inj hv
      exact hitems w hw
  | _ => simp [Value.items?] at hv

/-- Every value of a JSON text can be coerced to every type. -/
theorem coerce_json_eq_ok (k : Kind) (array : Bool) {v : Value} (h : v.IsJson) :
    ∃ c, coerce k array v = .ok c :=
  (coerce_limitedBy k array v).eq_ok fun ho => h.not_oversized ho.oversized

theorem coerceText_json {v : Value} (h : v.IsJson) : (coerceText v).IsJson := by
  rcases coerceText_eq v with ⟨-, hc⟩ | ⟨-, hc⟩
  · rw [hc]
    exact .null
  · rw [hc]
    exact h

/-- Coercion to texts turns values of JSON texts into such values. -/
theorem coerce_text_json {array : Bool} {v c : Value} (h : v.IsJson)
    (hc : coerce .string array v = .ok c) : c.IsJson := by
  induction v using Value.nestInduction generalizing array c with
  | single v hv =>
      rw [coerce_single .string array hv, coerceSingle_eq] at hc
      split at hc
      · obtain ⟨cs, hcs, hc⟩ := bind_eq_ok_iff.1 hc
        obtain rfl := Except.ok.inj hc
        refine .list ?_
        intro c hcm
        obtain ⟨p, hp, hpc⟩ := mem_of_mapM hcs hcm
        obtain rfl := Except.ok.inj hpc
        exact coerceText_json (arrayParts_json h hp)
      · obtain rfl := Except.ok.inj hc
        exact coerceText_json h
  | nested v items hv ih =>
      rw [coerce_nested .string array hv] at hc
      obtain ⟨cs, hcs, hc⟩ := bind_eq_ok_iff.1 hc
      obtain rfl := Except.ok.inj hc
      refine .list ?_
      intro c hcm
      obtain ⟨w, hw, hwc⟩ := mem_of_mapM hcs hcm
      exact ih w hw (h.item hv hw) hwc

end ParamGate
