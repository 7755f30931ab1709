import ParamGate.Parameter.Declaration
import ParamGate.Proofs.Parameter.Coercion

/-!
# Definitions that come from declarations

A definition that was read from a text or from a mapping is in normal form, `Definition.Parsed`:
its type is one of the types, its flags are truth values, its bounds are null or numbers, and a
required parameter has no default. Both forms of declaration establish it (`parsed_ofCompact`,
`parsed_ofMapping`), so `parse_parsed` holds of every declaration that is not a definition already.
-/

namespace ParamGate

open Text

/-- Bounds as the parser leaves them: null or a number. -/
def Value.IsBound (v : Value) : Prop := v = .null ∨ (∃ n, v = .int n) ∨ ∃ x, v = .float x

namespace Definition

/-- Definitions in the normal form of the parser. -/
structure Parsed (d : Definition) : Prop where
  kind : ∃ k, d.type = .kind k
  array : ∃ b, d.array = .bool b
  required : ∃ b, d.required = .bool b
  min : d.min.IsBound
  max : d.max.IsBound
  default_null : d.required = .bool true → d.default = .null

/-- A bound that is read is null or a number, and it is the value given. -/
theorem parseBound_eq_ok {name : String} {value bound : Value}
    (h : parseBound name value = .ok bound) : bound = value ∧ bound.IsBound := by
  unfold parseBound at h
  split at h
  · obtain rfl := Except.ok.inj h
    exact ⟨rfl, Or.inl rfl⟩
  · obtain rfl := Except.ok.inj h
    exact ⟨rfl, Or.inr (Or.inl ⟨_, rfl⟩)⟩
  · obtain rfl := Except.ok.inj h
    exact ⟨rfl, Or.inr (Or.inr ⟨_, rfl⟩)⟩
  · obtain ⟨shown, -, h⟩ := bind_eq_ok_iff.1 h
    simp [refuse] at h

/-- A declaration without a default has none: null is coerced to null. -/
theorem coerce_null (k : Kind) (array : Bool) : coerce k array .null = .ok .null := by
  rw [coerce_single k array rfl, coerceSingle_eq]
  cases k <;> simp [Value.truthy, coerceScalar, coerceText, coerceBoolean, coerceNumber,
    coerceInteger, Value.asText?]

/-- The definition of a compact declaration that is read as the given parts. -/
def ofParts (k : Kind) (form : CompactForm) (default : Value) : Definition where
  type := .kind k
  array := .bool form.array
  default := default
  required := .bool form.default.isNone
  min := .null
  max := .null
  description := .null
  validate := .null
  error := .null
  success := .null

theorem ofCompact_eq_ok {codes : Codes} {d : Definition} (h : ofCompact codes = .ok d) :
    ∃ form k default, CompactForm.read? codes = some form ∧
      Kind.parseToken form.name = .ok k ∧
      coerce k form.array (form.default.elim .null .ofCodes) = .ok default ∧
      d = ofParts k form default := by
  unfold ofCompact at h
  split at h
  · simp [refuse] at h
  · rename_i form hform
    obtain ⟨k, hk, h⟩ := bind_eq_ok_iff.1 h
    obtain ⟨default, hdefault, h⟩ := bind_eq_ok_iff.1 h
    exact ⟨form, k, default, hform, hk, hdefault, (Except.ok.inj h).symm⟩

theorem parsed_ofCompact {codes : Codes} {d : Definition} (h : ofCompact codes = .ok d) :
    d.Parsed := by
  obtain ⟨form, k, default, -, -, hdefault, rfl⟩ := ofCompact_eq_ok h
  refine ⟨⟨k, rfl⟩, ⟨_, rfl⟩, ⟨_, rfl⟩, Or.inl rfl, Or.inl rfl, ?_⟩
  intro hr
  -- a required parameter is one whose text gave no default, and null stands for that
  have hn : form.default = none := by simpa [ofParts] using hr
  rw [hn, Option.elim_none, coerce_null] at hdefault
  exact (Except.ok.inj hdefault).symm

/-- The definition of a mapping whose type and bounds are read. -/
def ofEntries (entries : Table Value) (k : Kind) : Definition where
  type := .kind k
  array := .bool (field entries "array").truthy
  default := field entries "default"
  required := .bool (parseRequired (field entries "required") (field entries "default"))
  min := field entries "min"
  max := field entries "max"
  description := field entries "description"
  validate := field entries "validate"
  error := field entries "error"
  success := field entries "success"

theorem ofMapping_eq_ok {entries : Table Value} {d : Definition} (h : ofMapping entries = .ok d) :
    ∃ type k, unknownKeys fieldNames entries = [] ∧ entries.get? (.string "type") = some type ∧
      Kind.parse type = .ok k ∧ (field entries "min").IsBound ∧ (field entries "max").IsBound ∧
      d = ofEntries entries k := by
  unfold ofMapping at h
  split at h
  · rename_i hknown
    split at h
    · simp [refuse] at h
    · rename_i type htype
      obtain ⟨k, hk, h⟩ := bind_eq_ok_iff.1 h
      obtain ⟨min, hmin, h⟩ := bind_eq_ok_iff.1 h
      obtain ⟨max, hmax, h⟩ := bind_eq_ok_iff.1 h
      obtain ⟨rfl, hminBound⟩ := parseBound_eq_ok hmin
      obtain ⟨rfl, hmaxBound⟩ := parseBound_eq_ok hmax
      exact ⟨type, k, hknown, htype, hk, hminBound, hmaxBound, (Except.ok.inj h).symm⟩
  · obtain ⟨names, -, h⟩ := bind_eq_ok_iff.1 h
    simp [refuse] at h

theorem parseBound_of_isBound {name : String} {value : Value} (h : value.IsBound) :
    parseBound name value = .ok value := by
  rcases h with rfl | ⟨n, rfl⟩ | ⟨x, rfl⟩
  · rfl
  · rfl
  · rfl

/-- A mapping with known fields, a type and numeric bounds declares a parameter. -/
theorem ofMapping_of_known {entries : Table Value} {type : Value} {k : Kind}
    (hknown : unknownKeys fieldNames entries = [])
    (htype : entries.get? (.string "type") = some type) (hk : Kind.parse type = .ok k)
    (hmin : (field entries "min").IsBound) (hmax : (field entries "max").IsBound) :
    ofMapping entries = .ok (ofEntries entries k) := by
  unfold ofMapping
  rw [hknown, htype]
  simp only [hk, ok_bind, parseBound_of_isBound hmin, parseBound_of_isBound hmax]
  rfl

theorem parsed_ofMapping {entries : Table Value} {d : Definition}
    (h : ofMapping entries = .ok d) : d.Parsed := by
  obtain ⟨type, k, -, -, -, hmin, hmax, rfl⟩ := ofMapping_eq_ok h
  refine ⟨⟨k, rfl⟩, ⟨_, rfl⟩, ⟨_, rfl⟩, hmin, hmax, ?_⟩
  intro hr
  -- a mapping with a default is never required, whatever it says
  simp only [ofEntries, parseRequired, Value.bool.injEq, Bool.and_eq_true] at hr
  show field entries "default" = .null
  cases hd : field entries "default" with
  | null => rfl
  | _ => simp [hd, Value.isNull] at hr

/-- Values that are definitions already. -/
def IsDefinition (spec : Value) : Prop := ∃ d, spec = .definition d

/-- The three ways to declare a parameter. -/
theorem parse_eq_ok {spec : Value} {d : Definition} (h : parse spec = .ok d) :
    spec = .definition d ∨ (∃ entries, spec = .map entries ∧ ofMapping entries = .ok d) ∨
      ∃ codes, spec.codes? = some codes ∧ ofCompact codes = .ok d := by
  unfold parse at h
  split at h
  · exact Or.inl (by rw [Except.ok.inj h])
  · exact Or.inr (Or.inl ⟨_, rfl, h⟩)
  · split at h
    · rename_i codes hcodes
      exact Or.inr (Or.inr ⟨codes, hcodes, h⟩)
    · simp [refuse] at h

/-- Every declaration but a ready definition gives a definition in normal form. -/
theorem parse_parsed {spec : Value} {d : Definition} (h : parse spec = .ok d)
    (hs : ¬ IsDefinition spec) : d.Parsed := by
  rcases parse_eq_ok h with rfl | ⟨entries, -, h⟩ | ⟨codes, -, h⟩
  -- a ready definition is taken as it is, with whatever stands in its fields
  · exact absurd ⟨d, rfl⟩ hs
  · exact parsed_ofMapping h
  · exact parsed_ofCompact h

/-! ## Declarations without hooks -/

/-- Declarations by a text or by a mapping that gives no hook. -/
structure HooklessSpec (spec : Value) : Prop where
  notDefinition : ¬ IsDefinition spec
  noHook : ∀ entries, spec = .map entries → (field entries "validate").truthy = false ∧
    (field entries "error").truthy = false ∧ (field entries "success").truthy = false

theorem parse_hookless {spec : Value} {d : Definition} (h : parse spec = .ok d)
    (hs : HooklessSpec spec) :
    d.validate.truthy = false ∧ d.error.truthy = false ∧ d.success.truthy = false := by
  rcases parse_eq_ok h with rfl | ⟨entries, rfl, h⟩ | ⟨codes, -, h⟩
  · exact absurd ⟨d, rfl⟩ hs.notDefinition
  · obtain ⟨type, k, -, -, -, -, -, rfl⟩ := ofMapping_eq_ok h
    exact hs.noHook entries rfl
  · obtain ⟨form, k, default, -, -, -, rfl⟩ := ofCompact_eq_ok h
    exact ⟨rfl, rfl, rfl⟩

end Definition

end ParamGate
