import ParamGate.Endpoint.Basic
import ParamGate.Proofs.Parameter.Declaration
import ParamGate.Proofs.Value.Sort
import ParamGate.Proofs.Value.Table

/-!
# Endpoints that come from declarations

`Endpoint.Built` lists what a declaration that is accepted says about its endpoint: where each field
comes from and that every parameter's declaration was parsed. It holds of every endpoint that a
declaration gives (`built_of_ofDeclaration`); no later proof looks into the steps of building.
-/

namespace ParamGate.Endpoint

/-- An accepted declaration of a parameter is parsed, and nothing is added to its definition. -/
theorem parseParameter_eq_ok {method path name spec : Value} {d : Definition}
    (h : parseParameter method path name spec = .ok d) : Definition.parse spec = .ok d := by
  unfold parseParameter at h
  split at h
  · rename_i d' hd
    rw [hd, Except.ok.inj h]
  · obtain ⟨place, -, h⟩ := bind_eq_ok_iff.1 h
    obtain ⟨shown, -, h⟩ := bind_eq_ok_iff.1 h
    simp [refuse] at h
  · simp at h

section Parameters

variable {method path error success validate : Value} {specs : Table Value}
  {parameters : Table Definition}

/-- Parameters keep the names of their declarations, in order. -/
theorem keys_parseParameters
    (h : parseParameters method path error success validate specs = .ok parameters) :
    parameters.keys = specs.keys := by
  induction specs generalizing parameters with
  | nil =>
      obtain rfl := Except.ok.inj h
      rfl
  | cons s specs ih =>
      rw [parseParameters] at h
      obtain ⟨d, -, h⟩ := bind_eq_ok_iff.1 h
      obtain ⟨others, hothers, h⟩ := bind_eq_ok_iff.1 h
      obtain rfl := Except.ok.inj h
      -- the head keeps its name, and parsing does not look at it
      simpa [Table.keys] using ih hothers

/-- Every parameter comes from a declaration of its name, with the hooks filled in. -/
theorem mem_parseParameters
    (h : parseParameters method path error success validate specs = .ok parameters)
    {name : Value} {d : Definition} (hd : (name, d) ∈ parameters) :
    ∃ spec own, (name, spec) ∈ specs ∧ Definition.parse spec = .ok own ∧
      d = withHooks own error success validate := by
  induction specs generalizing parameters with
  | nil =>
      obtain rfl := Except.ok.inj h
      simp at hd
  | cons s specs ih =>
      rw [parseParameters] at h
      obtain ⟨own, hown, h⟩ := bind_eq_ok_iff.1 h
      obtain ⟨others, hothers, h⟩ := bind_eq_ok_iff.1 h
      obtain rfl := Except.ok.inj h
      -- the parameter comes from the first declaration or from one of the others
      rcases List.mem_cons.1 hd with he | hd
      · obtain ⟨rfl, rfl⟩ := Prod.mk.inj he
        exact ⟨s.2, own, List.mem_cons_self, parseParameter_eq_ok hown, rfl⟩
      · obtain ⟨spec, own', hm, hp, rfl⟩ := ih hothers hd
        exact ⟨spec, own', List.mem_cons_of_mem s hm, hp, rfl⟩

/-- A method is only mentioned in messages: with another one the same parameters are accepted. -/
theorem parseParameters_method
    (h : parseParameters method path error success validate specs = .ok parameters)
    (other : Value) : parseParameters other path error success validate specs = .ok parameters := by
  induction specs generalizing parameters with
  | nil => exact h
  | cons s specs ih =>
      rw [parseParameters] at h
      obtain ⟨d, hd, h⟩ := bind_eq_ok_iff.1 h
      obtain ⟨others, hothers, h⟩ := bind_eq_ok_iff.1 h
      rw [parseParameters, parseParameter, parseParameter_eq_ok hd, ok_bind, ih hothers]
      exact h

end Parameters

/-- Where the fields of an endpoint come from: a declaration with the given entries, of which
`specs` declares the parameters, and the defaults. -/
structure Built (path method version : Value) (entries specs : Table Value) (defaults : Defaults)
    (e : Endpoint) : Prop where
  known : unknownKeys fieldNames entries = []
  specs_eq : (field entries "params").orElse (.map []) = .map specs
  path_eq : e.path = path
  method_eq : upperMethod method = .ok e.method
  version_eq : e.version = normalVersion version
  error_eq : e.error = (field entries "error").orElse defaults.error
  success_eq : e.success = (field entries "success").orElse defaults.success
  validate_eq : e.validate = (field entries "validate").orElse defaults.validate
  parameters_eq :
    parseParameters method path e.error e.success e.validate specs = .ok e.parameters
  names : ∃ texts, Value.texts 0 e.parameters.keys = .ok texts
  order_eq : parseOrder ((field entries "param_order").orElse defaults.order) = .ok e.order
  slot_eq :
    e.slot = ((field entries "param_map").orElse defaults.slot).orElse (.string standardSlot)
  description_eq : e.description = field entries "description"
  development_eq : e.development = defaults.development

theorem built_of_ofFields {path method version : Value} {entries : Table Value}
    {defaults : Defaults} {e : Endpoint} (hk : unknownKeys fieldNames entries = [])
    (h : ofFields path method entries defaults version = .ok e) :
    ∃ specs, Built path method version entries specs defaults e := by
  unfold ofFields at h
  simp only at h
  split at h
  · rename_i specs hspecs
    obtain ⟨parameters, hparameters, h⟩ := bind_eq_ok_iff.1 h
    obtain ⟨upper, hupper, h⟩ := bind_eq_ok_iff.1 h
    obtain ⟨order, horder, h⟩ := bind_eq_ok_iff.1 h
    obtain ⟨names, hnames, h⟩ := bind_eq_ok_iff.1 h
    obtain rfl := Except.ok.inj h
    exact ⟨specs, hk, hspecs, rfl, hupper, rfl, rfl, rfl, rfl, hparameters, ⟨names, hnames⟩, horder,
      rfl, rfl, rfl⟩
  -- what is not a mapping cannot declare parameters and is refused
  · obtain ⟨place, -, h⟩ := bind_eq_ok_iff.1 h
    simp [refuse] at h

/-- Fields that are read one by one declare an endpoint. -/
theorem ofFields_of_parts {path method version upper : Value} {entries specs : Table Value}
    {defaults : Defaults} {parameters : Table Definition} {order : List Value}
    {names : List Text.Codes}
    (hspecs : (field entries "params").orElse (.map []) = .map specs)
    (hparameters : parseParameters method path ((field entries "error").orElse defaults.error)
      ((field entries "success").orElse defaults.success)
      ((field entries "validate").orElse defaults.validate) specs = .ok parameters)
    (hupper : upperMethod method = .ok upper)
    (horder : parseOrder ((field entries "param_order").orElse defaults.order) = .ok order)
    (hnames : Value.texts 0 parameters.keys = .ok names) :
    ofFields path method entries defaults version = .ok
      { path := path
        method := upper
        version := normalVersion version
        parameters := parameters
        order := order
        slot := ((field entries "param_map").orElse defaults.slot).orElse (.string standardSlot)
        error := (field entries "error").orElse defaults.error
        success := (field entries "success").orElse defaults.success
        validate := (field entries "validate").orElse defaults.validate
        description := field entries "description"
        development := defaults.development } := by
  unfold ofFields
  simp only [hspecs, hparameters, hupper, horder, hnames, ok_bind]

theorem ofDeclaration_of_known {path method version : Value} {entries : Table Value}
    {defaults : Defaults} (h : unknownKeys fieldNames entries = []) :
    ofDeclaration path method (.map entries) defaults version =
      ofFields path method entries defaults version := by
  unfold ofDeclaration
  simp only [h]

/-- Only a mapping with known fields declares an endpoint, and the endpoint has what it says. -/
theorem built_of_ofDeclaration {path method api version : Value} {defaults : Defaults}
    {e : Endpoint} (h : ofDeclaration path method api defaults version = .ok e) :
    ∃ entries specs, api = .map entries ∧ Built path method version entries specs defaults e := by
  unfold ofDeclaration at h
  split at h
  · rename_i entries
    split at h
    · rename_i hk
      obtain ⟨specs, hb⟩ := built_of_ofFields hk h
      exact ⟨entries, specs, rfl, hb⟩
    -- unknown fields are refused, after their names were put in order
    · obtain ⟨place, -, h⟩ := bind_eq_ok_iff.1 h
      obtain ⟨names, -, h⟩ := bind_eq_ok_iff.1 h
      simp [refuse] at h
  · obtain ⟨place, -, h⟩ := bind_eq_ok_iff.1 h
    simp [refuse] at h

/-- Whether a declaration is accepted does not depend on the method, and the endpoints of two
methods differ in nothing else. -/
theorem ofDeclaration_method {path method api version other upper : Value} {defaults : Defaults}
    {e : Endpoint} (h : ofDeclaration path method api defaults version = .ok e)
    (hupper : upperMethod other = .ok upper) :
    ofDeclaration path other api defaults version = .ok { e with method := upper } := by
  obtain ⟨entries, specs, rfl, hb⟩ := built_of_ofDeclaration h
  obtain ⟨texts, hnames⟩ := hb.names
  have hparameters := parseParameters_method hb.parameters_eq other
  rw [hb.error_eq, hb.success_eq, hb.validate_eq] at hparameters
  rw [ofDeclaration_of_known hb.known,
    ofFields_of_parts hb.specs_eq hparameters hupper hb.order_eq hnames,
    ← hb.error_eq, ← hb.success_eq, ← hb.validate_eq, ← hb.slot_eq, ← hb.description_eq,
    ← hb.development_eq, ← hb.path_eq, ← hb.version_eq]

section Built

variable {path method version : Value} {entries specs : Table Value} {defaults : Defaults}
  {e : Endpoint}

/-- The parameters are those that the declaration gives, or there are none. -/
theorem Built.declared_or_nil (h : Built path method version entries specs defaults e) :
    field entries "params" = .map specs ∨ specs = [] := by
  have hs := h.specs_eq
  rw [Value.orElse] at hs
  split at hs
  · exact Or.inl hs
  · exact Or.inr (Value.map.inj hs).symm

theorem Built.keys_eq (h : Built path method version entries specs defaults e) :
    e.parameters.keys = specs.keys :=
  keys_parseParameters h.parameters_eq

theorem Built.distinct (h : Built path method version entries specs defaults e)
    (hs : Table.Distinct specs) : Table.Distinct e.parameters :=
  (Table.distinct_congr h.keys_eq).2 hs

theorem Built.mem_parameters (h : Built path method version entries specs defaults e)
    {name : Value} {d : Definition} (hd : (name, d) ∈ e.parameters) :
    ∃ spec own, (name, spec) ∈ specs ∧ Definition.parse spec = .ok own ∧
      d = withHooks own e.error e.success e.validate :=
  mem_parseParameters h.parameters_eq hd

end Built

/-- A declaration whose parameters are given by a mapping: no name has two entries. -/
def DistinctDeclaration (api : Value) : Prop :=
  ∀ entries specs, api = .map entries → field entries "params" = .map specs → Table.Distinct specs

theorem Built.distinct_parameters {path method version : Value} {entries specs : Table Value}
    {defaults : Defaults} {e : Endpoint} (h : Built path method version entries specs defaults e)
    (hapi : DistinctDeclaration (.map entries)) : Table.Distinct e.parameters := by
  refine h.distinct ?_
  rcases h.declared_or_nil with hs | rfl
  · exact hapi entries specs rfl hs
  · exact Table.distinct_nil

/-! ## Endpoints without hooks -/

/-- Declarations of an endpoint that give no hook and declare every parameter by a text or by a
mapping without hooks. -/
structure HooklessDeclaration (api : Value) : Prop where
  noHook : ∀ entries, api = .map entries → (field entries "validate").truthy = false ∧
    (field entries "error").truthy = false ∧ (field entries "success").truthy = false
  specs : ∀ entries specs, api = .map entries → field entries "params" = .map specs →
    ∀ s ∈ specs, Definition.HooklessSpec s.2

/-- The declaration of parameters alone. -/
def parametersOnly (specs : Table Value) : Value := .map [(.string "params", .map specs)]

theorem hooklessDeclaration_parametersOnly {specs : Table Value}
    (h : ∀ s ∈ specs, Definition.HooklessSpec s.2) :
    HooklessDeclaration (parametersOnly specs) := by
  constructor
  · intro entries he
    obtain rfl := Value.map.inj he
    exact ⟨rfl, rfl, rfl⟩
  · intro entries specs' he hs
    obtain rfl := Value.map.inj he
    obtain rfl : specs = specs' := Value.map.inj hs
    exact h

end ParamGate.Endpoint

namespace ParamGate

/-- Defaults without hooks. -/
def Defaults.hookless (order : List String) (slot : String) (development : Bool) : Defaults where
  order := .tuple (order.map .string)
  slot := .string slot
  error := .null
  success := .null
  validate := .null
  development := .bool development

/-- Endpoints without hooks whose parameters are in the normal form of the parser. -/
structure Endpoint.Hookless (e : Endpoint) : Prop where
  error_null : e.error = .null
  success_null : e.success = .null
  parameters : ∀ name d, (name, d) ∈ e.parameters → d.Parsed ∧ d.validate = .null

theorem Value.orElse_of_falsy {v w : Value} (h : v.truthy = false) : v.orElse w = w := by
  rw [orElse, h]
  rfl

theorem Value.orElse_of_truthy {v w : Value} (h : v.truthy = true) : v.orElse w = v :=
  if_pos h

theorem Endpoint.normalVersion_of_truthy {version : Value} (h : version.truthy = true) :
    normalVersion version = version := by
  rw [normalVersion, Value.orElse_of_truthy h]

theorem Endpoint.normalVersion_of_falsy {version : Value} (h : version.truthy = false) :
    normalVersion version = .null := by
  rw [normalVersion, Value.orElse, h]
  rfl

/-- A version in normal form is left as it is. -/
theorem Endpoint.normalVersion_normalVersion (version : Value) :
    normalVersion (normalVersion version) = normalVersion version := by
  cases h : version.truthy with
  | true => rw [normalVersion_of_truthy h, normalVersion_of_truthy h]
  | false => rw [normalVersion_of_falsy h]; rfl

theorem Definition.Parsed.withHooks {d : Definition} (h : d.Parsed)
    (error success validate : Value) : (Endpoint.withHooks d error success validate).Parsed :=
  ⟨h.kind, h.array, h.required, h.min, h.max, h.default_null⟩

/-- A declaration without hooks under defaults without hooks gives an endpoint without hooks. -/
theorem Endpoint.hookless_of_ofDeclaration {path method api version : Value} {order : List String}
    {slot : String} {development : Bool} {e : Endpoint} (hapi : HooklessDeclaration api)
    (h : ofDeclaration path method api (.hookless order slot development) version = .ok e) :
    e.Hookless := by
  obtain ⟨entries, specs, rfl, hb⟩ := built_of_ofDeclaration h
  obtain ⟨hv, he, hs⟩ := hapi.noHook entries rfl
  -- a hook that is not given falls back to the default, and there the place is null
  have hvalidate : e.validate = .null := by
    rw [hb.validate_eq]
    exact Value.orElse_of_falsy hv
  refine ⟨?_, ?_, ?_⟩
  · rw [hb.error_eq]
    exact Value.orElse_of_falsy he
  · rw [hb.success_eq]
    exact Value.orElse_of_falsy hs
  · intro name d hd
    obtain ⟨spec, own, hspec, hown, rfl⟩ := hb.mem_parameters hd
    -- parameters that are not given at all leave none to speak of
    have hless : Definition.HooklessSpec spec := by
      rcases hb.declared_or_nil with hspecs | rfl
      · exact hapi.specs entries specs rfl hspecs (name, spec) hspec
      · simp at hspec
    refine ⟨(Definition.parse_parsed hown hless.notDefinition).withHooks _ _ _, ?_⟩
    show own.validate.orElse e.validate = .null
    rw [hvalidate]
    exact Value.orElse_of_falsy (Definition.parse_hookless hown hless).1

end ParamGate
