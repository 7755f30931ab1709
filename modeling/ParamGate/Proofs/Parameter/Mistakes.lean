import ParamGate.Proofs.Parameter.Compact
import ParamGate.Proofs.Value.Literal
import ParamGate.Proofs.Value.Sort

/-!
# Mistakes in the declaration of a parameter

A declaration that cannot be read is a mistake, and the fault says which one. But the message about
a mistake shows a part of the declaration, and where that part has no text another fault takes the
place of the mistake. `Escapes` says so of a computation, and `Definition.Unreportable` lists the
mappings for which it happens: exactly those of `Definition.escapes_parse_iff`.
-/

namespace ParamGate

/-- Faults that are mistakes in a declaration. -/
def Fault.IsMistake (fault : Fault) : Prop := ∃ cause, fault = .declaration cause

/-- Computations that end with a fault other than a mistake in a declaration. -/
def Escapes {α : Type} (x : Except Fault α) : Prop :=
  ∃ fault, x = .error fault ∧ ¬ fault.IsMistake

section Escapes

variable {α β : Type}

@[simp] theorem not_escapes_ok (a : α) : ¬ Escapes (.ok a : Except Fault α) := by
  rintro ⟨fault, h, -⟩
  simp at h

@[simp] theorem not_escapes_refuse (cause : DeclarationError) :
    ¬ Escapes (refuse cause : Except Fault α) := by
  rintro ⟨fault, h, hn⟩
  exact hn ⟨cause, (Except.error.inj h).symm⟩

theorem escapes_error_iff {fault : Fault} :
    Escapes (.error fault : Except Fault α) ↔ ¬ fault.IsMistake := by
  constructor
  · rintro ⟨other, h, hn⟩
    rwa [Except.error.inj h]
  · intro hn
    exact ⟨fault, rfl, hn⟩

/-- Two steps escape when the first does, or the second after the first. -/
theorem escapes_bind_iff {x : Except Fault α} {f : α → Except Fault β} :
    Escapes (x >>= f) ↔ Escapes x ∨ ∃ a, x = .ok a ∧ Escapes (f a) := by
  cases x with
  | ok a => simp
  | error fault => simp [escapes_error_iff]

/-- A message is shown after a step that gives its text. -/
theorem escapes_refuse_iff {x : Except Fault α} {cause : α → DeclarationError} :
    Escapes (x >>= fun a => (refuse (cause a) : Except Fault β)) ↔ Escapes x := by
  rw [escapes_bind_iff]
  simp

/-- What never fails with a mistake escapes when it has no result. -/
theorem escapes_iff_not_ok {x : Except Fault α} (h : ∀ fault, x = .error fault → ¬ fault.IsMistake) :
    Escapes x ↔ ¬ ∃ a, x = .ok a := by
  cases x with
  | ok a => exact iff_of_false (not_escapes_ok a) fun hn => hn ⟨a, rfl⟩
  | error fault =>
      refine iff_of_true (escapes_error_iff.2 (h fault rfl)) ?_
      rintro ⟨a, ha⟩
      cases ha

theorem not_isMistake_digitLimit : ¬ Fault.digitLimit.IsMistake := by
  rintro ⟨cause, h⟩
  cases h

/-- What fails at the digit limit alone escapes there. -/
theorem LimitedBy.escapes_iff {p : Prop} {x : Except Fault α} (h : LimitedBy p x) :
    Escapes x ↔ p := by
  constructor
  · rintro ⟨fault, hx, -⟩
    obtain rfl := h.limited fault hx
    exact h.reached.1 hx
  · intro hp
    exact ⟨.digitLimit, h.reached.2 hp, not_isMistake_digitLimit⟩

end Escapes

/-! ## Parts that messages show -/

/-- Names are joined unless one of them is no text. -/
theorem Value.escapes_texts_iff {index : Nat} {vs : List Value} :
    Escapes (texts index vs) ↔ ∃ v ∈ vs, v.codes? = none := by
  have hfaults : ∀ fault, texts index vs = .error fault → ¬ fault.IsMistake := by
    rintro fault h ⟨cause, rfl⟩
    obtain ⟨place, type, he⟩ := texts_eq_error h
    cases he
  rw [escapes_iff_not_ok hfaults, texts_eq_ok_iff]
  push Not
  simp only [Option.eq_none_iff_forall_ne_some]

/-- Names that are not known are listed unless one of them is no text. -/
theorem Value.escapes_sortedTexts_iff {vs : List Value} :
    Escapes (sortedTexts vs) ↔ ∃ v ∈ vs, v.codes? = none := by
  have hsort : FaultsSatisfy (fun fault => ¬ fault.IsMistake) (compare .less) := by
    rintro v w fault h ⟨cause, rfl⟩
    obtain ⟨left, right, he⟩ := compare_eq_error .less v w h
    cases he
  have hfaults : ∀ fault, sortedTexts vs = .error fault → ¬ fault.IsMistake := by
    intro fault h
    rcases bind_eq_error_iff.1 h with h | ⟨sorted, -, h⟩
    · exact sortUp_eq_error hsort h
    · rintro ⟨cause, rfl⟩
      obtain ⟨place, type, he⟩ := texts_eq_error h
      cases he
  rw [escapes_iff_not_ok hfaults, sortedTexts_eq_ok_iff]
  push Not
  simp only [Option.eq_none_iff_forall_ne_some]

/-- A type that is no text is shown. -/
theorem Kind.parse_of_not_text {type : Value} (h : type.codes? = none) :
    Kind.parse type = type.literal >>= fun shown => refuse (.unknownType (Text.codes shown)) := by
  cases type with
  | kind k => simp [Value.codes?] at h
  | string s => simp [Value.codes?] at h
  | illFormed codes => simp [Value.codes?] at h
  | _ => rfl

theorem Kind.not_escapes_parseToken (codes : Text.Codes) : ¬ Escapes (Kind.parseToken codes) := by
  rw [Kind.parseToken]
  cases Kind.ofToken? (Text.lossy codes) with
  | some k => exact not_escapes_ok k
  | none => exact not_escapes_refuse _

/-- An integer in a type that is shown may be too long for that. -/
theorem Kind.escapes_parse_iff {type : Value} : Escapes (Kind.parse type) ↔ type.Oversized := by
  cases type with
  | kind k =>
      refine iff_of_false (not_escapes_ok k) ?_
      intro ho
      cases ho
  | string s =>
      rw [Kind.parse]
      refine iff_of_false (not_escapes_parseToken _) ?_
      exact Value.IsText.not_oversized (Or.inl ⟨s, rfl⟩)
  | illFormed codes =>
      rw [Kind.parse]
      refine iff_of_false (not_escapes_parseToken codes) ?_
      exact Value.IsText.not_oversized (Or.inr ⟨codes, rfl⟩)
  | _ =>
      rw [Kind.parse_of_not_text rfl]
      exact escapes_refuse_iff.trans (Value.literal_limitedBy _).escapes_iff

/-- A bound that is no number is shown. -/
theorem escapes_parseBound_iff {name : String} {value : Value} :
    Escapes (parseBound name value) ↔ ¬ value.IsBound ∧ value.Oversized := by
  by_cases hb : value.IsBound
  · rw [Definition.parseBound_of_isBound hb]
    simp [hb]
  · have hshown : parseBound name value =
        value.literal >>= fun shown => refuse (.badBound name shown) := by
      unfold parseBound
      split
      · exact absurd (Or.inl rfl) hb
      · exact absurd (Or.inr (Or.inl ⟨_, rfl⟩)) hb
      · exact absurd (Or.inr (Or.inr ⟨_, rfl⟩)) hb
      · rfl
    rw [hshown, escapes_refuse_iff, (Value.literal_limitedBy value).escapes_iff]
    exact (and_iff_right hb).symm

theorem parseBound_eq_ok_iff {name : String} {value : Value} :
    (∃ bound, parseBound name value = .ok bound) ↔ value.IsBound := by
  constructor
  · rintro ⟨bound, h⟩
    obtain ⟨rfl, hb⟩ := Definition.parseBound_eq_ok h
    exact hb
  · intro hb
    exact ⟨value, Definition.parseBound_of_isBound hb⟩

namespace Definition

/-! ## Mappings -/

/-- Mappings with a mistake that cannot be reported, because the part that the message shows has no
text. -/
inductive Unreportable (entries : Table Value) : Prop
  /-- A field that is not known is given under a name that is no text. -/
  | fields {name : Value} : name ∈ unknownKeys fieldNames entries → name.codes? = none →
      Unreportable entries
  /-- The type is no text and has an integer of too many digits in it. -/
  | type {type : Value} : unknownKeys fieldNames entries = [] →
      entries.get? (.string "type") = some type → type.Oversized → Unreportable entries
  /-- The lower bound is no number and has such an integer in it. -/
  | min {type : Value} {k : Kind} : unknownKeys fieldNames entries = [] →
      entries.get? (.string "type") = some type → Kind.parse type = .ok k →
      ¬ (field entries "min").IsBound → (field entries "min").Oversized → Unreportable entries
  /-- The upper bound is no number and has such an integer in it. -/
  | max {type : Value} {k : Kind} : unknownKeys fieldNames entries = [] →
      entries.get? (.string "type") = some type → Kind.parse type = .ok k →
      (field entries "min").IsBound → ¬ (field entries "max").IsBound →
      (field entries "max").Oversized → Unreportable entries

/-- With known fields, what cannot be reported is about the type or comes after it. -/
theorem Unreportable.typed {entries : Table Value} (h : Unreportable entries)
    (hknown : unknownKeys fieldNames entries = []) :
    ∃ type, entries.get? (.string "type") = some type := by
  cases h with
  | fields hname _ => simp [hknown] at hname
  | type _ ht _ => exact ⟨_, ht⟩
  | min _ ht _ _ _ => exact ⟨_, ht⟩
  | max _ ht _ _ _ _ => exact ⟨_, ht⟩

/-- With fields that are not known nothing else is looked at. -/
theorem unreportable_iff_of_unknown {entries : Table Value}
    (h : unknownKeys fieldNames entries ≠ []) :
    Unreportable entries ↔ ∃ name ∈ unknownKeys fieldNames entries, name.codes? = none := by
  constructor
  · intro hu
    cases hu with
    | fields hname hn => exact ⟨_, hname, hn⟩
    | type hknown _ _ => exact absurd hknown h
    | min hknown _ _ _ _ => exact absurd hknown h
    | max hknown _ _ _ _ _ => exact absurd hknown h
  · rintro ⟨name, hname, hn⟩
    exact .fields hname hn

/-- Without unknown fields a mapping is read from its type and its bounds. -/
theorem ofMapping_of_type {entries : Table Value} {type : Value}
    (hknown : unknownKeys fieldNames entries = [])
    (htype : entries.get? (.string "type") = some type) :
    ofMapping entries = Kind.parse type >>= fun k =>
      parseBound "min" (field entries "min") >>= fun min =>
        parseBound "max" (field entries "max") >>= fun max =>
          .ok { ofEntries entries k with min := min, max := max } := by
  unfold ofMapping
  rw [hknown, htype]
  rfl

theorem ofMapping_of_unknown {entries : Table Value}
    (hunknown : unknownKeys fieldNames entries ≠ []) :
    ofMapping entries =
      Value.sortedTexts (unknownKeys fieldNames entries) >>= fun names =>
        refuse (.unknownFields names) := by
  unfold ofMapping
  split
  · rename_i h
    exact absurd h hunknown
  · rfl

theorem not_escapes_ofCompact (codes : Text.Codes) : ¬ Escapes (ofCompact codes) := by
  rintro ⟨fault, h, hn⟩
  exact hn (ofCompact_eq_error h)

theorem escapes_ofMapping_iff {entries : Table Value} :
    Escapes (ofMapping entries) ↔ Unreportable entries := by
  by_cases hknown : unknownKeys fieldNames entries = []
  · cases htype : entries.get? (.string "type") with
    | none =>
        have hmissing : ofMapping entries = refuse .missingType := by
          unfold ofMapping
          rw [hknown, htype]
        rw [hmissing]
        refine iff_of_false (not_escapes_refuse _) ?_
        intro hu
        obtain ⟨type, ht⟩ := hu.typed hknown
        simp [htype] at ht
    | some type =>
        -- the type is read first, then the lower bound, then the upper one
        rw [ofMapping_of_type hknown htype, escapes_bind_iff, Kind.escapes_parse_iff]
        simp only [escapes_bind_iff, escapes_parseBound_iff, not_escapes_ok, and_false, exists_false,
          or_false, exists_and_right, parseBound_eq_ok_iff]
        constructor
        · rintro (ht | ⟨⟨k, hk⟩, ⟨hb, ho⟩ | ⟨hmin, hb, ho⟩⟩)
          · exact .type hknown htype ht
          · exact .min hknown htype hk hb ho
          · exact .max hknown htype hk hmin hb ho
        · intro hu
          cases hu with
          | fields hname _ => simp [hknown] at hname
          | type _ ht ho =>
              obtain rfl := Option.some.inj (htype.symm.trans ht)
              exact Or.inl ho
          | min _ ht hk hb ho =>
              obtain rfl := Option.some.inj (htype.symm.trans ht)
              exact Or.inr ⟨⟨_, hk⟩, Or.inl ⟨hb, ho⟩⟩
          | max _ ht hk hmin hb ho =>
              obtain rfl := Option.some.inj (htype.symm.trans ht)
              exact Or.inr ⟨⟨_, hk⟩, Or.inr ⟨hmin, hb, ho⟩⟩
  · rw [ofMapping_of_unknown hknown, escapes_refuse_iff, Value.escapes_sortedTexts_iff,
      unreportable_iff_of_unknown hknown]

/-- Reading the declaration of a parameter gives a definition or names a mistake, except for a
mapping whose mistake cannot be reported. -/
theorem escapes_parse_iff {spec : Value} :
    Escapes (parse spec) ↔ ∃ entries, spec = .map entries ∧ Unreportable entries := by
  cases spec with
  | definition d => exact iff_of_false (not_escapes_ok d) (by simp)
  | map entries => simpa [parse] using escapes_ofMapping_iff
  | string s => exact iff_of_false (not_escapes_ofCompact _) (by simp)
  | illFormed codes => exact iff_of_false (not_escapes_ofCompact codes) (by simp)
  -- a type stands for the text of its name
  | kind k => exact iff_of_false (not_escapes_ofCompact _) (by simp)
  | _ => exact iff_of_false (not_escapes_refuse _) (by simp)

end Definition

end ParamGate
