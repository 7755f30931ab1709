import ParamGate.Json.Writer
import ParamGate.Proofs.Value.Literal

/-!
# Values that JSON texts denote

`Value.IsJson` describes what a JSON text can denote: null, truth values, numbers, texts, and lists
and maps of such values at any depth. An integer has at most 4300 digits, since a longer one is not
read; a floating number may be infinite or no number. Every such value has a text
(`IsJson.text_eq_ok`), which is why nothing that is derived from a request through texts can fail.

Writing is narrower than reading: `Value.Unwritable` names the numbers that were read or declared
and have no JSON text. A value is written unless it is `Unrenderable`: unless such a number, a text
with a surrogate, bytes, a function, a file or a declaration is in it, at any depth
(`write_eq_ok_iff`).
-/

namespace ParamGate.Value

/-- Texts, with or without surrogates. -/
def IsText (v : Value) : Prop := (∃ s, v = .string s) ∨ ∃ codes, v = .illFormed codes

theorem ofCodes_isText (codes : List Nat) : (ofCodes codes).IsText := by
  unfold ofCodes
  split
  · exact Or.inl ⟨_, rfl⟩
  · exact Or.inr ⟨_, rfl⟩

/-- Values that JSON texts denote. -/
inductive IsJson : Value → Prop
  | null : IsJson .null
  | bool (b : Bool) : IsJson (.bool b)
  | int {n : Int} : n.natAbs < digitBound → IsJson (.int n)
  | float (x : Binary64) : IsJson (.float x)
  | string (s : String) : IsJson (.string s)
  | illFormed (codes : List Nat) : IsJson (.illFormed codes)
  | list {items : List Value} : (∀ v ∈ items, IsJson v) → IsJson (.list items)
  | map {entries : List (Value × Value)} :
      (∀ e ∈ entries, e.1.IsText) → (∀ e ∈ entries, IsJson e.2) → IsJson (.map entries)

/-- Numbers without a JSON text: those that are not finite, and integers of more than 4300
digits. -/
def Unwritable : Value → Prop
  | .float (.finite _ _) => False
  | .float _ => True
  | .int n => digitBound ≤ n.natAbs
  | _ => False

/-- Values that cannot name an entry of a JSON object. -/
def Unnaming : Value → Prop
  | .illFormed _ => True
  | .bytes _ => True
  | .list _ => True
  | .tuple _ => True
  | .map _ => True
  | .hook _ => True
  | .upload _ => True
  | .definition _ => True
  | v => v.Unwritable

/-- Values without a JSON text. -/
inductive Unrenderable : Value → Prop
  | number {v : Value} : v.Unwritable → Unrenderable v
  | illFormed (codes : List Nat) : Unrenderable (.illFormed codes)
  | bytes (bs : List UInt8) : Unrenderable (.bytes bs)
  | hook (h : Hook) : Unrenderable (.hook h)
  | upload (u : Upload) : Unrenderable (.upload u)
  | definition (d : ParamFields Value) : Unrenderable (.definition d)
  | list {items : List Value} {v : Value} : v ∈ items → Unrenderable v → Unrenderable (.list items)
  | tuple {items : List Value} {v : Value} : v ∈ items → Unrenderable v →
      Unrenderable (.tuple items)
  | name {entries : List (Value × Value)} {e : Value × Value} : e ∈ entries → e.1.Unnaming →
      Unrenderable (.map entries)
  | entry {entries : List (Value × Value)} {e : Value × Value} : e ∈ entries →
      Unrenderable e.2 → Unrenderable (.map entries)

@[simp] theorem unrenderable_list {items : List Value} :
    (Value.list items).Unrenderable ↔ ∃ v ∈ items, v.Unrenderable := by
  constructor
  · intro h
    cases h with
    | number h => exact h.elim
    | list hv h => exact ⟨_, hv, h⟩
  · rintro ⟨v, hv, h⟩
    exact .list hv h

@[simp] theorem unrenderable_tuple {items : List Value} :
    (Value.tuple items).Unrenderable ↔ ∃ v ∈ items, v.Unrenderable := by
  constructor
  · intro h
    cases h with
    | number h => exact h.elim
    | tuple hv h => exact ⟨_, hv, h⟩
  · rintro ⟨v, hv, h⟩
    exact .tuple hv h

@[simp] theorem unrenderable_map {entries : List (Value × Value)} :
    (Value.map entries).Unrenderable ↔ ∃ e ∈ entries, e.1.Unnaming ∨ e.2.Unrenderable := by
  constructor
  · intro h
    cases h with
    | number h => exact h.elim
    | name he h => exact ⟨_, he, Or.inl h⟩
    | entry he h => exact ⟨_, he, Or.inr h⟩
  · rintro ⟨e, he, h | h⟩
    · exact .name he h
    · exact .entry he h

theorem unrenderable_int {n : Int} : (Value.int n).Unrenderable ↔ (Value.int n).Unwritable := by
  constructor
  · intro h
    cases h with
    | number h => exact h
  · exact .number

theorem unrenderable_float {x : Binary64} :
    (Value.float x).Unrenderable ↔ (Value.float x).Unwritable := by
  constructor
  · intro h
    cases h with
    | number h => exact h
  · exact .number

/-! ## Texts of JSON values -/

theorem integerText_eq_ok {n : Int} (h : n.natAbs < digitBound) :
    integerText n = .ok (Text.decimal n) :=
  if_pos h

theorem IsText.not_oversized {v : Value} (h : v.IsText) : ¬ v.Oversized := by
  intro ho
  rcases h with ⟨s, rfl⟩ | ⟨codes, rfl⟩
  · cases ho
  · cases ho

/-- The integers of a JSON text are within the limit of digits, at any depth. -/
theorem IsJson.not_oversized {v : Value} (h : v.IsJson) : ¬ v.Oversized := by
  intro ho
  induction h with
  | null => cases ho
  | bool b => cases ho
  | int hn => exact Nat.not_le_of_lt hn (oversized_int.1 ho)
  | float x => cases ho
  | string s => cases ho
  | illFormed codes => cases ho
  | list _ ih =>
      obtain ⟨v, hv, ho⟩ := oversized_list.1 ho
      exact ih v hv ho
  | map hk _ ih =>
      obtain ⟨e, he, ho | ho⟩ := oversized_map.1 ho
      · exact (hk e he).not_oversized ho
      · exact ih e he ho

/-- Every value of a JSON text has a text. -/
theorem IsJson.text_eq_ok {v : Value} (h : v.IsJson) : ∃ s, v.text = .ok s :=
  (text_limitedBy v).eq_ok h.not_oversized

/-! ## Writing -/

/-- A value is written when it can be dumped and no text with a surrogate is in it. -/
theorem write_eq_ok_iff_dump {v : Value} :
    (∃ s, Json.write v = .ok s) ↔ (∃ s, Json.dump v = .ok s) ∧ Json.hasSurrogate v = false := by
  unfold Json.write
  cases Json.dump v with
  | error fault => simp
  | ok s => cases Json.hasSurrogate v <;> simp

/-- A number has a JSON text unless it is among the unwritable ones. -/
theorem dump_number_eq_ok_iff {v : Value} (h : (∃ n, v = .int n) ∨ ∃ x, v = .float x) :
    (∃ s, Json.dump v = .ok s) ↔ ¬ v.Unwritable := by
  rcases h with ⟨n, rfl⟩ | ⟨x, rfl⟩
  -- an integer is stopped by the same limit of digits in both directions
  · by_cases hn : n.natAbs < digitBound
    · simp [Json.dump, integerText, Unwritable, hn]
    · simp [Json.dump, integerText, Unwritable, hn, Nat.le_of_not_lt hn]
  -- the words for infinite numbers and for no number are read, but never written
  · cases x with
    | nan p => simp [Json.dump, Json.floatText, Unwritable]
    | infinite s => simp [Json.dump, Json.floatText, Unwritable]
    | finite s u => simp [Json.dump, Json.floatText, Unwritable]

theorem write_number_eq_ok_iff {v : Value} (h : (∃ n, v = .int n) ∨ ∃ x, v = .float x) :
    (∃ s, Json.write v = .ok s) ↔ ¬ v.Unwritable := by
  have hplain : Json.hasSurrogate v = false := by
    rcases h with ⟨n, rfl⟩ | ⟨x, rfl⟩
    · rfl
    · rfl
  rw [write_eq_ok_iff_dump, dump_number_eq_ok_iff h]
  exact and_iff_left hplain

/-- Values that are written as the name of an entry. -/
def Naming (v : Value) : Prop :=
  (∃ s, Json.keyText v = .ok s) ∧ Json.hasSurrogate v = false

theorem naming_of_asText? {name : Value} {s : String} (h : name.asText? = some s) :
    name.Naming := by
  cases name with
  | string t => exact ⟨⟨_, rfl⟩, rfl⟩
  | kind k => exact ⟨⟨_, rfl⟩, rfl⟩
  | _ => simp [asText?] at h

@[simp] theorem naming_string (s : String) : (Value.string s).Naming := naming_of_asText? rfl

@[simp] theorem write_string (s : String) : Json.write (.string s) = .ok (Json.quoted s) := rfl

/-- A value names an entry of a JSON object unless it is among those that cannot. -/
theorem naming_iff {v : Value} : v.Naming ↔ ¬ v.Unnaming := by
  cases v with
  | int n =>
      have h := dump_number_eq_ok_iff (v := .int n) (Or.inl ⟨n, rfl⟩)
      rw [Json.dump] at h
      exact (and_iff_left rfl).trans h
  | float x =>
      have h := dump_number_eq_ok_iff (v := .float x) (Or.inr ⟨x, rfl⟩)
      rw [Json.dump] at h
      exact (and_iff_left rfl).trans h
  | _ => simp [Naming, Json.keyText, Json.hasSurrogate, Unnaming, Unwritable]

theorem dumpEntries_eq_ok_iff {entries : List (Value × Value)} :
    (∃ parts, Json.dumpEntries entries = .ok parts) ↔
      ∀ e ∈ entries, (∃ s, Json.keyText e.1 = .ok s) ∧ ∃ s, Json.dump e.2 = .ok s := by
  induction entries with
  | nil => simp [Json.dumpEntries]
  | cons e es ih =>
      rw [List.forall_mem_cons, ← ih, Json.dumpEntries]
      simp only [bind_eq_ok_iff]
      constructor
      · rintro ⟨_, key, hkey, value, hvalue, parts, hparts, _⟩
        exact ⟨⟨⟨key, hkey⟩, value, hvalue⟩, parts, hparts⟩
      · rintro ⟨⟨⟨key, hkey⟩, value, hvalue⟩, parts, hparts⟩
        exact ⟨_, key, hkey, value, hvalue, parts, hparts, rfl⟩

theorem dumpItems_eq_ok_iff {vs : List Value} :
    (∃ parts, Json.dumpItems vs = .ok parts) ↔ ∀ v ∈ vs, ∃ s, Json.dump v = .ok s := by
  induction vs with
  | nil => simp [Json.dumpItems]
  | cons v vs ih =>
      rw [List.forall_mem_cons, ← ih, Json.dumpItems]
      simp only [bind_eq_ok_iff]
      constructor
      · rintro ⟨_, s, hs, parts, hparts, _⟩
        exact ⟨⟨s, hs⟩, parts, hparts⟩
      · rintro ⟨⟨s, hs⟩, parts, hparts⟩
        exact ⟨_, s, hs, parts, hparts, rfl⟩

theorem itemsHaveSurrogate_eq_false_iff {vs : List Value} :
    Json.itemsHaveSurrogate vs = false ↔ ∀ v ∈ vs, Json.hasSurrogate v = false := by
  induction vs with
  | nil => simp [Json.itemsHaveSurrogate]
  | cons v vs ih => simp [Json.itemsHaveSurrogate, ih]

theorem entriesHaveSurrogate_eq_false_iff {entries : List (Value × Value)} :
    Json.entriesHaveSurrogate entries = false ↔
      ∀ e ∈ entries, Json.hasSurrogate e.1 = false ∧ Json.hasSurrogate e.2 = false := by
  induction entries with
  | nil => simp [Json.entriesHaveSurrogate]
  | cons e entries ih =>
      obtain ⟨name, v⟩ := e
      simp [Json.entriesHaveSurrogate, ih, and_assoc]

/-- A list or tuple has a JSON text exactly when every item of it has one. -/
theorem write_items_eq_ok_iff {v : Value} {items : List Value}
    (hv : v = .list items ∨ v = .tuple items) :
    (∃ s, Json.write v = .ok s) ↔ ∀ w ∈ items, ∃ s, Json.write w = .ok s := by
  have hdump : (∃ s, Json.dump v = .ok s) ↔ ∃ parts, Json.dumpItems items = .ok parts := by
    rcases hv with rfl | rfl
    · rw [Json.dump]
      simp [bind_eq_ok_iff]
    · rw [Json.dump]
      simp [bind_eq_ok_iff]
  have hsurrogate : Json.hasSurrogate v = Json.itemsHaveSurrogate items := by
    rcases hv with rfl | rfl
    · rw [Json.hasSurrogate]
    · rw [Json.hasSurrogate]
  rw [write_eq_ok_iff_dump, hdump, hsurrogate, dumpItems_eq_ok_iff,
    itemsHaveSurrogate_eq_false_iff, ← forall₂_and]
  simp only [write_eq_ok_iff_dump]

/-- A map has a JSON text exactly when every key and every value in it has one. -/
theorem write_map_eq_ok_iff {entries : List (Value × Value)} :
    (∃ s, Json.write (.map entries) = .ok s) ↔
      ∀ e ∈ entries, e.1.Naming ∧ ∃ s, Json.write e.2 = .ok s := by
  have hdump : (∃ s, Json.dump (.map entries) = .ok s) ↔
      ∃ parts, Json.dumpEntries entries = .ok parts := by
    rw [Json.dump]
    simp [bind_eq_ok_iff]
  rw [write_eq_ok_iff_dump, hdump, Json.hasSurrogate, dumpEntries_eq_ok_iff,
    entriesHaveSurrogate_eq_false_iff, ← forall₂_and]
  simp only [write_eq_ok_iff_dump, Naming]
  refine forall₂_congr fun e _ => ?_
  rw [and_and_and_comm]

mutual

/-- A value is written unless something without a JSON text is in it. -/
theorem write_eq_ok_iff : ∀ v : Value, (∃ s, Json.write v = .ok s) ↔ ¬ v.Unrenderable
  | .null => iff_of_true ⟨_, rfl⟩ (by rintro ⟨h⟩; exact h)
  | .bool _ => iff_of_true ⟨_, rfl⟩ (by rintro ⟨h⟩; exact h)
  | .int n => by rw [unrenderable_int, ← write_number_eq_ok_iff (Or.inl ⟨n, rfl⟩)]
  | .float x => by rw [unrenderable_float, ← write_number_eq_ok_iff (Or.inr ⟨x, rfl⟩)]
  | .string _ => iff_of_true ⟨_, rfl⟩ (by rintro ⟨h⟩; exact h)
  | .kind _ => iff_of_true ⟨_, rfl⟩ (by rintro ⟨h⟩; exact h)
  | .illFormed codes => iff_of_false nofun (not_not_intro (.illFormed codes))
  | .bytes bs => iff_of_false nofun (not_not_intro (.bytes bs))
  | .hook h => iff_of_false nofun (not_not_intro (.hook h))
  | .upload u => iff_of_false nofun (not_not_intro (.upload u))
  | .definition d => iff_of_false nofun (not_not_intro (.definition d))
  | .list items => by
      rw [unrenderable_list, write_items_eq_ok_iff (Or.inl rfl), write_all_iff items]
      push Not
      rfl
  | .tuple items => by
      rw [unrenderable_tuple, write_items_eq_ok_iff (Or.inr rfl), write_all_iff items]
      push Not
      rfl
  | .map entries => by
      rw [unrenderable_map, write_map_eq_ok_iff, write_values_iff entries]
      push Not
      rfl

theorem write_all_iff : ∀ vs : List Value,
    (∀ v ∈ vs, ∃ s, Json.write v = .ok s) ↔ ∀ v ∈ vs, ¬ v.Unrenderable
  | [] => by simp
  | v :: vs => by
      rw [List.forall_mem_cons, List.forall_mem_cons, write_eq_ok_iff v, write_all_iff vs]

theorem write_values_iff : ∀ entries : List (Value × Value),
    (∀ e ∈ entries, e.1.Naming ∧ ∃ s, Json.write e.2 = .ok s) ↔
      ∀ e ∈ entries, ¬ e.1.Unnaming ∧ ¬ e.2.Unrenderable
  | [] => by simp
  | (name, v) :: rest => by
      rw [List.forall_mem_cons, List.forall_mem_cons, naming_iff, write_eq_ok_iff v,
        write_values_iff rest]

end

end ParamGate.Value
