import ParamGate.Proofs.Endpoint.Mistakes

/-!
# Where the parts of an endpoint come from

An endpoint that is built has the parameters of its declaration, in order, each read from its own
declaration. Hooks that a parameter lacks come from the endpoint, and what the endpoint lacks comes
from the defaults; `FirstTrue` is this choice between levels, and `Takes` says of which levels each
part is the first true one. Main statement: `ofDeclaration_takes`, which also says when an endpoint
is built and how building ends at the first declaration that is wrong.
-/

namespace ParamGate

open Text

/-! ## Levels -/

/-- The first true value of several levels, or the value of the last level if none is true. -/
inductive Value.FirstTrue : List Value → Value → Prop
  | here {v : Value} {rest : List Value} : v.truthy = true → FirstTrue (v :: rest) v
  | next {v w : Value} {rest : List Value} : v.truthy = false → FirstTrue rest w →
      FirstTrue (v :: rest) w
  | last (v : Value) : FirstTrue [v] v

/-- A further level in front counts when it is true. -/
theorem Value.FirstTrue.orElse {w : Value} {rest : List Value} (h : FirstTrue rest w) (v : Value) :
    FirstTrue (v :: rest) (v.orElse w) := by
  cases ht : v.truthy with
  | true =>
      rw [orElse_of_truthy ht]
      exact .here ht
  | false =>
      rw [orElse_of_falsy ht]
      exact .next ht h

theorem Value.orElse_assoc (u v w : Value) : (u.orElse v).orElse w = u.orElse (v.orElse w) := by
  cases hu : u.truthy with
  | true => rw [orElse_of_truthy hu, orElse_of_truthy hu, orElse_of_truthy hu]
  | false => rw [orElse_of_falsy hu, orElse_of_falsy hu]

namespace Endpoint

/-- A definition as it was read, but with the hooks of the parameter, the endpoint or the
defaults. -/
structure TakesHooks (entries : Table Value) (defaults : Defaults) (own d : Definition) : Prop where
  error : Value.FirstTrue [own.error, field entries "error", defaults.error] d.error
  validate : Value.FirstTrue [own.validate, field entries "validate", defaults.validate] d.validate
  success : Value.FirstTrue [own.success, field entries "success", defaults.success] d.success
  rest : d = { own with error := d.error, validate := d.validate, success := d.success }

/-- An endpoint with the parts that a declaration of its parameters, its other fields and the
defaults give it. -/
structure Takes (entries specs : Table Value) (defaults : Defaults) (e : Endpoint) : Prop where
  /-- The parameters in order, under the same names. -/
  parameters : List.Forall₂ (fun s p => p.1 = s.1 ∧ ∃ own, Definition.parse s.2 = .ok own ∧
    TakesHooks entries defaults own p.2) specs e.parameters
  error : Value.FirstTrue [field entries "error", defaults.error] e.error
  validate : Value.FirstTrue [field entries "validate", defaults.validate] e.validate
  success : Value.FirstTrue [field entries "success", defaults.success] e.success
  slot : Value.FirstTrue [field entries "param_map", defaults.slot, .string standardSlot] e.slot
  /-- A text is an order of one source, and any other order is that of its parts. -/
  order : ∃ order, Value.FirstTrue [field entries "param_order", defaults.order] order ∧
    (order.codes?.isSome = true → e.order = [order]) ∧
    (order.codes? = none → order.parts? = some e.order)

section Built

variable {path method version : Value} {entries specs : Table Value} {defaults : Defaults}
  {e : Endpoint}

theorem forall₂_parseParameters {error success validate : Value} {parameters : Table Definition}
    (h : parseParameters method path error success validate specs = .ok parameters) :
    List.Forall₂ (fun s p => p.1 = s.1 ∧ ∃ own, Definition.parse s.2 = .ok own ∧
      p.2 = withHooks own error success validate) specs parameters := by
  induction specs generalizing parameters with
  | nil =>
      obtain rfl := Except.ok.inj h
      exact .nil
  | cons s specs ih =>
      rw [parseParameters] at h
      obtain ⟨own, hown, h⟩ := bind_eq_ok_iff.1 h
      obtain ⟨others, hothers, h⟩ := bind_eq_ok_iff.1 h
      obtain rfl := Except.ok.inj h
      exact .cons ⟨rfl, own, parseParameter_eq_ok hown, rfl⟩ (ih hothers)

/-- Filling in hooks chooses between three levels, of which two were decided for the endpoint. -/
theorem takesHooks_withHooks (own : Definition)
    (he : Value.FirstTrue [field entries "error", defaults.error] e.error)
    (hv : Value.FirstTrue [field entries "validate", defaults.validate] e.validate)
    (hs : Value.FirstTrue [field entries "success", defaults.success] e.success) :
    TakesHooks entries defaults own (withHooks own e.error e.success e.validate) :=
  ⟨he.orElse own.error, hv.orElse own.validate, hs.orElse own.success, rfl⟩

theorem parseOrder_eq_ok {order : Value} {names : List Value} (h : parseOrder order = .ok names) :
    (order.codes?.isSome = true → names = [order]) ∧
      (order.codes? = none → order.parts? = some names) := by
  unfold parseOrder Value.parts at h
  cases ht : order.codes? with
  | some s =>
      rw [ht] at h
      exact ⟨fun _ => (Except.ok.inj h).symm, by simp⟩
  | none =>
      rw [ht] at h
      refine ⟨by simp, ?_⟩
      intro _
      cases hp : order.parts? with
      | none => simp [hp] at h
      | some vs =>
          rw [hp] at h
          exact congrArg some (Except.ok.inj h)

/-- Every part of an endpoint that was built comes from the first level that has it. -/
theorem Built.takes (h : Built path method version entries specs defaults e) :
    Takes entries specs defaults e := by
  have herror : Value.FirstTrue [field entries "error", defaults.error] e.error := by
    rw [h.error_eq]
    exact (Value.FirstTrue.last _).orElse _
  have hvalidate : Value.FirstTrue [field entries "validate", defaults.validate] e.validate := by
    rw [h.validate_eq]
    exact (Value.FirstTrue.last _).orElse _
  have hsuccess : Value.FirstTrue [field entries "success", defaults.success] e.success := by
    rw [h.success_eq]
    exact (Value.FirstTrue.last _).orElse _
  refine ⟨?_, herror, hvalidate, hsuccess, ?_, ?_⟩
  · refine (forall₂_parseParameters h.parameters_eq).imp ?_
    rintro s p ⟨hname, own, hown, hp⟩
    refine ⟨hname, own, hown, ?_⟩
    rw [hp]
    exact takesHooks_withHooks own herror hvalidate hsuccess
  · rw [h.slot_eq, Value.orElse_assoc]
    exact ((Value.FirstTrue.last _).orElse _).orElse _
  · exact ⟨_, (Value.FirstTrue.last _).orElse _, parseOrder_eq_ok h.order_eq⟩

end Built

/-! ## How building ends -/

section Building

variable {path method : Codes} {entries specs : Table Value} {defaults : Defaults}
  {version : Value}

theorem ofDeclaration_eq_ok_iff :
    (∃ e, ofDeclaration (.ofCodes path) (.ofCodes method) (.map entries) defaults version = .ok e) ↔
      unknownKeys fieldNames entries = [] ∧ ∃ specs, Declares entries specs ∧ AllRead specs ∧
        (orderField entries defaults).parts?.isSome = true ∧
        ∀ name ∈ specs.keys, ∃ s, name.codes? = some s := by
  constructor
  · rintro ⟨e, h⟩
    obtain ⟨entries', specs, he, hb⟩ := built_of_ofDeclaration h
    obtain rfl := Value.map.inj he
    rw [ofDeclaration_of_known hb.known] at h
    exact ⟨hb.known, specs, hb.specs_eq, (ofFields_eq_ok_iff hb.specs_eq).1 ⟨e, h⟩⟩
  · rintro ⟨hknown, specs, hs, h⟩
    rw [ofDeclaration_of_known hknown]
    exact (ofFields_eq_ok_iff hs).2 h

/-- The first wrong declaration of a parameter decides how building ends. -/
theorem ofDeclaration_of_first (hknown : unknownKeys fieldNames entries = [])
    {before after : Table Value} {name spec : Value} {fault : Fault}
    (hs : Declares entries (before ++ (name, spec) :: after)) (hb : AllRead before)
    (hf : parseParameter (.ofCodes method) (.ofCodes path) name spec = .error fault) :
    ofDeclaration (.ofCodes path) (.ofCodes method) (.map entries) defaults version =
      .error fault := by
  obtain ⟨build, hbuild⟩ := ofFields_steps path method defaults version hs
  rw [ofDeclaration_of_known hknown, hbuild, parseParameters_of_first hb hf, error_bind]

/-- How a parameter with a wrong declaration is reported: its mistake under its name, unless the
name cannot be shown, and any other fault as it is. -/
theorem parseParameter_eq_error (path method : Codes) {name spec : Value} {fault : Fault}
    (h : Definition.parse spec = .error fault) :
    ∃ f, parseParameter (.ofCodes method) (.ofCodes path) name spec = .error f ∧
      (f.IsMistake ↔ fault.IsMistake ∧ ¬ name.Oversized) ∧
      (f.IsMistake → ∃ shown, name.textCodes = .ok shown ∧ ∀ help, f.message help =
        method ++ codes " " ++ path ++ codes ": parameter '" ++ shown ++ codes "': " ++
          fault.message help) ∧
      (fault.IsMistake → name.Oversized → f = .digitLimit) ∧ (¬ fault.IsMistake → f = fault) := by
  have hlimited := Value.textCodes_limitedBy name
  by_cases hm : fault.IsMistake
  · obtain ⟨cause, rfl⟩ := hm
    rw [parseParameter_of_mistake path method h]
    by_cases ho : name.Oversized
    · refine ⟨.digitLimit, by rw [hlimited.reached.2 ho, error_bind], ?_⟩
      simp [Fault.IsMistake, ho]
    · obtain ⟨shown, hshown⟩ := hlimited.eq_ok ho
      refine ⟨_, by rw [hshown, ok_bind]; rfl, ?_, ?_, ?_, ?_⟩
      · exact iff_of_true ⟨_, rfl⟩ ⟨⟨_, rfl⟩, ho⟩
      · intro _
        exact ⟨shown, hshown, fun _ => rfl⟩
      · intro _ ho'
        exact absurd ho' ho
      · intro hn
        exact absurd ⟨_, rfl⟩ hn
  · refine ⟨fault, parseParameter_of_escape h hm, ?_⟩
    simp [hm]

end Building

/-- A mapping with texts for path and method is built into an endpoint exactly when its fields are
known, its parameters are declared by a mapping and all read, its order has parts and its names are
texts. The endpoint then takes each part from the first level that has it. With known fields, the
first parameter whose declaration is wrong decides how building ends: its mistake is reported with
its place, its name and its own message, unless the name cannot be shown; a fault that is no mistake
is passed on. -/
theorem ofDeclaration_takes (path method : Codes) (entries : Table Value) (defaults : Defaults)
    (version : Value) :
    ((∃ e, ofDeclaration (.ofCodes path) (.ofCodes method) (.map entries) defaults version = .ok e) ↔
      unknownKeys fieldNames entries = [] ∧ ∃ specs, Declares entries specs ∧ AllRead specs ∧
        (orderField entries defaults).parts?.isSome = true ∧
        ∀ name ∈ specs.keys, ∃ s, name.codes? = some s) ∧
    (∀ e, ofDeclaration (.ofCodes path) (.ofCodes method) (.map entries) defaults version = .ok e →
      ∃ specs, Declares entries specs ∧ Takes entries specs defaults e) ∧
    ∀ before after name spec fault, unknownKeys fieldNames entries = [] →
      Declares entries (before ++ (name, spec) :: after) → AllRead before →
      Definition.parse spec = .error fault →
      ∃ f, ofDeclaration (.ofCodes path) (.ofCodes method) (.map entries) defaults version =
          .error f ∧
        (f.IsMistake ↔ fault.IsMistake ∧ ¬ name.Oversized) ∧
        (f.IsMistake → ∃ shown, name.textCodes = .ok shown ∧ ∀ help, f.message help =
          method ++ codes " " ++ path ++ codes ": parameter '" ++ shown ++ codes "': " ++
            fault.message help) ∧
        (fault.IsMistake → name.Oversized → f = .digitLimit) ∧
        (¬ fault.IsMistake → f = fault) := by
  refine ⟨ofDeclaration_eq_ok_iff, ?_, ?_⟩
  · intro e h
    obtain ⟨entries', specs, he, hb⟩ := built_of_ofDeclaration h
    obtain rfl := Value.map.inj he
    exact ⟨specs, hb.specs_eq, hb.takes⟩
  · intro before after name spec fault hknown hs hb hfault
    obtain ⟨f, hf, hreported⟩ := parseParameter_eq_error path method hfault
    exact ⟨f, ofDeclaration_of_first hknown hs hb hf, hreported⟩

/-- Fields with a hook for errors and two parameters, of which the second one has no type. -/
def untypedFields : Table Value :=
  [(.string "error", .hook ⟨"told", 0⟩),
    (.string "params", .map
      [(.string "a", .definition (Definition.ofEntries [] .string)), (.string "b", .map [])])]

/-- The second parameter is the first that is wrong, and its mistake is reported with its name. -/
theorem ofDeclaration_takes_untyped :
    unknownKeys fieldNames untypedFields = [] ∧
      Declares untypedFields ([(.string "a", .definition (Definition.ofEntries [] .string))] ++
        [(.string "b", .map [])]) ∧
      AllRead [(.string "a", .definition (Definition.ofEntries [] .string))] ∧
      Definition.parse (.map []) = .error (.declaration .missingType) ∧
      ∃ f, ofDeclaration (.string "/items") (.string "GET") (.map untypedFields) .standard .null =
          .error f ∧
        ∀ help, f.message help =
          codes "GET /items: parameter 'b': Parameter specification is missing 'type'" := by
  have hread : AllRead [(.string "a", .definition (Definition.ofEntries [] .string))] := by
    intro s hs
    obtain rfl := List.mem_singleton.1 hs
    exact ⟨_, rfl⟩
  have hname : ¬ (Value.string "b").Oversized := Value.IsText.not_oversized (Or.inl ⟨"b", rfl⟩)
  refine ⟨rfl, rfl, hread, rfl, ?_⟩
  obtain ⟨-, -, hends⟩ :=
    ofDeclaration_takes (codes "/items") (codes "GET") untypedFields .standard .null
  obtain ⟨f, hf, hmistake, hmessage, -⟩ :=
    hends [(.string "a", .definition (Definition.ofEntries [] .string))] [] (.string "b") (.map [])
      (.declaration .missingType) rfl rfl hread rfl
  obtain ⟨shown, hshown, hm⟩ := hmessage (hmistake.2 ⟨⟨_, rfl⟩, hname⟩)
  obtain rfl : codes "b" = shown := Except.ok.inj hshown
  exact ⟨f, hf, hm⟩

/-- Fields with a parameter whose type is an integer. -/
def numberTypeFields (n : Int) : Table Value :=
  [(.string "params", .map [(.string "n", .map [(.string "type", .int n)])])]

theorem parse_numberType {n : Int} (hn : Value.digitBound ≤ n.natAbs) :
    Definition.parse (.map [(.string "type", .int n)]) = .error .digitLimit := by
  have hshown : Value.literal (.int n) = .error .digitLimit :=
    (Value.literal_limitedBy _).reached.2 (Value.oversized_int.2 hn)
  have htype : Kind.parse (.int n) = .error .digitLimit := by
    rw [Kind.parse_of_not_text rfl, hshown, error_bind]
  rw [Definition.parse, Definition.ofMapping_of_type rfl rfl, htype, error_bind]

theorem ofDeclaration_numberType {n : Int} (hn : Value.digitBound ≤ n.natAbs) :
    ofDeclaration (.string "/items") (.string "GET") (.map (numberTypeFields n)) .standard .null =
      .error .digitLimit := by
  have hs : Declares (numberTypeFields n)
      ([] ++ (.string "n", .map [(.string "type", .int n)]) :: []) := rfl
  have hfirst : parseParameter (.ofCodes (codes "GET")) (.ofCodes (codes "/items")) (.string "n")
      (.map [(.string "type", .int n)]) = .error .digitLimit :=
    parseParameter_of_escape (parse_numberType hn) not_isMistake_digitLimit
  have hbuilt : ofDeclaration (.ofCodes (codes "/items")) (.ofCodes (codes "GET"))
      (.map (numberTypeFields n)) .standard .null = .error .digitLimit :=
    ofDeclaration_of_first rfl hs (by simp [AllRead]) hfirst
  rwa [Value.ofCodes_codes, Value.ofCodes_codes] at hbuilt

/-- A type with 4301 digits cannot be shown, so building ends without naming the parameter or a
mistake. -/
theorem number_type_not_named :
    Definition.parse (.map [(.string "type", .int (Value.digitBound : Nat))]) =
        .error .digitLimit ∧
      ofDeclaration (.string "/items") (.string "GET")
        (.map (numberTypeFields (Value.digitBound : Nat))) .standard .null = .error .digitLimit ∧
      ¬ Fault.digitLimit.IsMistake := by
  have hn : Value.digitBound ≤ ((Value.digitBound : Nat) : Int).natAbs :=
    Nat.le_of_eq (Int.natAbs_natCast _).symm
  exact ⟨parse_numberType hn, ofDeclaration_numberType hn, not_isMistake_digitLimit⟩

end Endpoint

end ParamGate
