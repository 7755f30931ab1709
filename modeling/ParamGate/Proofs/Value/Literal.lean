import ParamGate.Value.Literal
import ParamGate.Proofs.Outcome

/-!
# Texts and the digit limit

The only thing that keeps a value from having a text is an integer of more than 4300 digits
somewhere inside it. `Limited` says that a computation has no other fault than that of the digit
limit, and `LimitedBy` that it has it in a given case and in no other. Both are kept by steps in a
row, so `literal` and `text` fail for the values that are `Oversized`, and for no others
(`literal_limitedBy`, `text_limitedBy`).
-/

namespace ParamGate

section Limits

variable {α β : Type} {p q : Prop} {x : Except Fault α}

/-- Computations without a fault other than that of the digit limit. -/
def Limited {α : Type} (x : Except Fault α) : Prop :=
  ∀ fault, x = .error fault → fault = .digitLimit

/-- Computations that fail at the digit limit in one case, and otherwise not at all. -/
structure LimitedBy {α : Type} (p : Prop) (x : Except Fault α) : Prop where
  limited : Limited x
  reached : x = .error .digitLimit ↔ p

theorem limitedBy_ok (a : α) : LimitedBy False (.ok a) where
  limited := fun fault h => by simp at h
  reached := by simp

/-- The case may be described in another way. -/
theorem LimitedBy.congr (h : LimitedBy p x) (hpq : p ↔ q) : LimitedBy q x :=
  ⟨h.limited, h.reached.trans hpq⟩

/-- A value in a case that cannot be. -/
theorem limitedBy_of_not (hp : ¬ p) (a : α) : LimitedBy p (.ok a) :=
  (limitedBy_ok a).congr (iff_of_false id hp)

/-- Outside the case there is a value. -/
theorem LimitedBy.eq_ok (h : LimitedBy p x) (hp : ¬ p) : ∃ a, x = .ok a := by
  cases x with
  | ok a => exact ⟨a, rfl⟩
  | error fault =>
      obtain rfl := h.limited fault rfl
      exact absurd (h.reached.1 rfl) hp

/-- Two steps fail when one of them does, if the case of the second does not depend on what the
first one gives. -/
theorem LimitedBy.bind {f : α → Except Fault β} (hx : LimitedBy p x)
    (hf : ∀ a, LimitedBy q (f a)) : LimitedBy (p ∨ q) (x >>= f) := by
  have hcase := hx.reached
  cases x with
  | ok a =>
      have hp : ¬ p := fun hp => by simpa using hcase.2 hp
      exact (hf a).congr (or_iff_right hp).symm
  | error fault =>
      obtain rfl := hx.limited fault rfl
      have hp : p := hcase.1 rfl
      exact ⟨fun fault h => (Except.error.inj h).symm, by simp [hp]⟩

theorem LimitedBy.map (f : α → β) (hx : LimitedBy p x) : LimitedBy p (Except.map f x) where
  limited := fun fault h => hx.limited fault (map_eq_error_iff.1 h)
  reached := map_eq_error_iff.trans hx.reached

/-- A list of computations fails when one of them does. -/
theorem LimitedBy.mapM {p : α → Prop} {f : α → Except Fault β} {xs : List α}
    (h : ∀ x ∈ xs, LimitedBy (p x) (f x)) : LimitedBy (∃ x ∈ xs, p x) (xs.mapM f) := by
  induction xs with
  | nil => exact (limitedBy_ok _).congr (by simp)
  | cons x xs ih =>
      have hrest := ih fun w hw => h w (List.mem_cons_of_mem x hw)
      rw [mapM_cons]
      exact ((h x List.mem_cons_self).bind fun _ => hrest.bind fun _ => limitedBy_ok _).congr
        (by simp)

end Limits

/-- The fields of a declaration in order. -/
def ParamFields.toList {α : Type} (d : ParamFields α) : List α :=
  [d.type, d.array, d.default, d.required, d.min, d.max, d.description, d.validate, d.error,
    d.success]

namespace Value

/-- Values with an integer of more than 4300 digits in them, at any depth. -/
inductive Oversized : Value → Prop
  | int {n : Int} : digitBound ≤ n.natAbs → Oversized (.int n)
  | list {items : List Value} {v : Value} : v ∈ items → Oversized v → Oversized (.list items)
  | tuple {items : List Value} {v : Value} : v ∈ items → Oversized v → Oversized (.tuple items)
  | name {entries : List (Value × Value)} {e : Value × Value} : e ∈ entries → Oversized e.1 →
      Oversized (.map entries)
  | entry {entries : List (Value × Value)} {e : Value × Value} : e ∈ entries → Oversized e.2 →
      Oversized (.map entries)
  | field {d : ParamFields Value} {v : Value} : v ∈ d.toList → Oversized v →
      Oversized (.definition d)

@[simp] theorem oversized_int {n : Int} : (Value.int n).Oversized ↔ digitBound ≤ n.natAbs := by
  constructor
  · rintro ⟨h⟩
    exact h
  · exact .int

@[simp] theorem oversized_list {items : List Value} :
    (Value.list items).Oversized ↔ ∃ v ∈ items, v.Oversized := by
  constructor
  · intro h
    cases h with
    | list hv h => exact ⟨_, hv, h⟩
  · rintro ⟨v, hv, h⟩
    exact .list hv h

@[simp] theorem oversized_tuple {items : List Value} :
    (Value.tuple items).Oversized ↔ ∃ v ∈ items, v.Oversized := by
  constructor
  · intro h
    cases h with
    | tuple hv h => exact ⟨_, hv, h⟩
  · rintro ⟨v, hv, h⟩
    exact .tuple hv h

@[simp] theorem oversized_map {entries : List (Value × Value)} :
    (Value.map entries).Oversized ↔ ∃ e ∈ entries, e.1.Oversized ∨ e.2.Oversized := by
  constructor
  · intro h
    cases h with
    | name he h => exact ⟨_, he, Or.inl h⟩
    | entry he h => exact ⟨_, he, Or.inr h⟩
  · rintro ⟨e, he, h | h⟩
    · exact .name he h
    · exact .entry he h

@[simp] theorem oversized_definition {d : ParamFields Value} :
    (Value.definition d).Oversized ↔ ∃ v ∈ d.toList, v.Oversized := by
  constructor
  · intro h
    cases h with
    | field hv h => exact ⟨_, hv, h⟩
  · rintro ⟨v, hv, h⟩
    exact .field hv h

theorem integerText_limitedBy (n : Int) : LimitedBy (digitBound ≤ n.natAbs) (integerText n) := by
  unfold integerText
  split
  · rename_i h
    exact limitedBy_of_not (Nat.not_le_of_lt h) _
  · rename_i h
    exact ⟨fun fault hf => (Except.error.inj hf).symm, iff_of_true rfl (Nat.le_of_not_lt h)⟩

mutual

/-- A value is shown in messages unless an integer in it has too many digits. -/
theorem literal_limitedBy : ∀ v : Value, LimitedBy v.Oversized (literal v)
  | .null => limitedBy_of_not nofun _
  | .bool _ => limitedBy_of_not nofun _
  | .int n => (integerText_limitedBy n).congr oversized_int.symm
  | .float _ => limitedBy_of_not nofun _
  | .string _ => limitedBy_of_not nofun _
  | .illFormed _ => limitedBy_of_not nofun _
  | .bytes _ => limitedBy_of_not nofun _
  | .kind _ => limitedBy_of_not nofun _
  | .hook _ => limitedBy_of_not nofun _
  | .upload _ => limitedBy_of_not nofun _
  | .list items => by
      rw [literal]
      exact ((literals_limitedBy items).bind fun _ => limitedBy_ok _).congr (by simp)
  | .tuple items => by
      rw [literal]
      -- a tuple of one part is written with a comma of its own, but this adds no fault
      refine ((literals_limitedBy items).bind (q := False) fun parts => ?_).congr (by simp)
      split
      · exact limitedBy_ok _
      · exact limitedBy_ok _
  | .map entries => by
      rw [literal]
      exact ((entryLiterals_limitedBy entries).bind fun _ => limitedBy_ok _).congr (by simp)
  | .definition d => by
      rw [literal]
      exact ((fieldLiterals_limitedBy d).bind fun _ => limitedBy_ok _).congr (by simp)

theorem literals_limitedBy : ∀ vs : List Value, LimitedBy (∃ v ∈ vs, v.Oversized) (literals vs)
  | [] => (limitedBy_ok _).congr (by simp)
  | v :: vs => by
      rw [literals]
      exact ((literal_limitedBy v).bind fun _ => (literals_limitedBy vs).bind fun _ =>
        limitedBy_ok _).congr (by simp)

theorem entryLiterals_limitedBy : ∀ entries : List (Value × Value),
    LimitedBy (∃ e ∈ entries, e.1.Oversized ∨ e.2.Oversized) (entryLiterals entries)
  | [] => (limitedBy_ok _).congr (by simp)
  | (k, v) :: rest => by
      rw [entryLiterals]
      exact ((literal_limitedBy k).bind fun _ => (literal_limitedBy v).bind fun _ =>
        (entryLiterals_limitedBy rest).bind fun _ => limitedBy_ok _).congr (by simp [or_assoc])

theorem fieldLiterals_limitedBy : ∀ d : ParamFields Value,
    LimitedBy (∃ v ∈ d.toList, v.Oversized) (fieldLiterals d)
  | ⟨a, b, c, d, e, f, g, h, i, j⟩ => by
      rw [fieldLiterals]
      exact ((literal_limitedBy a).bind fun _ => (literal_limitedBy b).bind fun _ =>
        (literal_limitedBy c).bind fun _ => (literal_limitedBy d).bind fun _ =>
        (literal_limitedBy e).bind fun _ => (literal_limitedBy f).bind fun _ =>
        (literal_limitedBy g).bind fun _ => (literal_limitedBy h).bind fun _ =>
        (literal_limitedBy i).bind fun _ => (literal_limitedBy j).bind fun _ =>
        limitedBy_ok _).congr (by simp [ParamFields.toList])

end

/-- A value has a text unless an integer in it has too many digits. -/
theorem text_limitedBy (v : Value) : LimitedBy v.Oversized v.text := by
  unfold text
  split
  · exact limitedBy_of_not nofun _
  · exact limitedBy_of_not nofun _
  · exact limitedBy_of_not nofun _
  · exact literal_limitedBy v

/-- A text is shown as it is, surrogates and all. -/
@[simp] theorem textCodes_ofCodes (codes : Text.Codes) : (ofCodes codes).textCodes = .ok codes := by
  unfold ofCodes
  split
  · rename_i cs hcs
    show Except.ok (Text.codes (String.ofList cs)) = _
    rw [Text.ofCodes?_eq_some_iff.1 hcs, Text.codes, String.toList_ofList]
  · rfl

theorem textCodes_limitedBy (v : Value) : LimitedBy v.Oversized v.textCodes := by
  unfold textCodes
  split
  · exact limitedBy_of_not nofun _
  · exact (text_limitedBy v).map Text.codes

end Value

end ParamGate
