import ParamGate.Gate.Basic
import ParamGate.Proofs.Endpoint.Build
import ParamGate.Proofs.Text.Ascii

/-!
# What registration leaves in a gate

A declaration that is accepted for verification adds one endpoint to the registry and changes
nothing else (`Gate.configure_eq_ok`). The endpoint is the one that its declaration builds under the
defaults of the gate, which `Gate.Registers` records, and requests of its own path, method and
version find it (`Gate.Registers.finds`).

A property of endpoints that holds of everything in a registry is kept by registering one more
endpoint that has it (`Registry.mem_register`).
-/

namespace ParamGate

namespace Registry

variable {α : Type} {reg reg' : Registry α} {path method version : Value} {a : α}

theorem mem_putEntry {k : EndpointKey} {entries : List (EndpointKey × α)} {e : EndpointKey × α}
    (h : e ∈ putEntry k a entries) : e ∈ entries ∨ e.2 = a := by
  induction entries with
  | nil =>
      rw [putEntry, List.mem_singleton] at h
      exact Or.inr (by rw [h])
  | cons f entries ih =>
      rw [putEntry] at h
      split at h
      · rcases List.mem_cons.1 h with rfl | h
        · exact Or.inr rfl
        · exact Or.inl (List.mem_cons_of_mem f h)
      · rcases List.mem_cons.1 h with rfl | h
        · exact Or.inl List.mem_cons_self
        · exact (ih h).imp_left (List.mem_cons_of_mem f)

theorem mem_of_get? {k : EndpointKey} (h : reg.get? k = some a) : ∃ l, (l, a) ∈ reg.entries := by
  obtain ⟨e, he, rfl⟩ := Option.map_eq_some_iff.1 h
  exact ⟨e.1, List.mem_of_find?_eq_some he⟩

theorem mem_of_find? {k : EndpointKey} (h : reg.find? k = some a) :
    ∃ l, (l, a) ∈ reg.entries := by
  unfold find? at h
  split at h
  · rename_i b hb
    exact mem_of_get? (hb.trans h)
  -- without an entry for the version the one for no version is taken
  · split at h
    · simp at h
    · exact mem_of_get? h

/-- What a look-up finds is in the registry. -/
theorem mem_of_lookup (h : reg.lookup path method version = .ok (some a)) :
    ∃ l, (l, a) ∈ reg.entries := by
  obtain ⟨k, -, h⟩ := bind_eq_ok_iff.1 h
  obtain ⟨k', -, h⟩ := bind_eq_ok_iff.1 h
  exact mem_of_find? (Except.ok.inj h)

/-- After registering, every entry was there before or is the new one. -/
theorem mem_register (h : reg.register path method version a = .ok reg')
    {e : EndpointKey × α} (he : e ∈ reg'.entries) : e ∈ reg.entries ∨ e.2 = a := by
  obtain ⟨k, -, h⟩ := bind_eq_ok_iff.1 h
  obtain ⟨k', -, h⟩ := bind_eq_ok_iff.1 h
  obtain rfl := Except.ok.inj h
  exact mem_putEntry he

/-- What was registered last under a path, a method and a version is found under them. -/
theorem lookup_register (h : reg.register path method version a = .ok reg') :
    reg'.lookup path method version = .ok (some a) := by
  obtain ⟨k, hk, h⟩ := bind_eq_ok_iff.1 h
  obtain ⟨k', hk', h⟩ := bind_eq_ok_iff.1 h
  obtain rfl := Except.ok.inj h
  rw [lookup, hk, ok_bind, hk', ok_bind, find?, get?_put_self]

end Registry

namespace Gate

/-- The endpoint of the declaration is registered in the first gate, which gives the second. -/
structure Registers (g : Gate) (path method api version : Value) (e : Endpoint) (g' : Gate) :
    Prop where
  configured : g.configure path method api version = .ok (g', .verify)
  built : Endpoint.ofDeclaration path method api g.defaults version = .ok e

section Configure

variable {g g' : Gate} {path method api version : Value} {t : Treatment}

/-- A configuration that is accepted registers the endpoint of its declaration, or nothing. -/
theorem configure_eq_ok (h : g.configure path method api version = .ok (g', t)) :
    (t = .passThrough ∧ g' = g) ∨
      (t = .verify ∧ ∃ e registry,
        Endpoint.ofDeclaration path method api g.defaults version = .ok e ∧
        g.registry.register path method version e = .ok registry ∧
        g' = { g with registry := registry }) := by
  unfold configure at h
  obtain ⟨verified, -, h⟩ := bind_eq_ok_iff.1 h
  -- a route that needs no verification leaves the gate as it was
  cases verified with
  | true =>
      rw [if_pos rfl] at h
      obtain ⟨e, he, h⟩ := bind_eq_ok_iff.1 h
      obtain ⟨registry, hr, h⟩ := bind_eq_ok_iff.1 h
      obtain ⟨rfl, rfl⟩ := Prod.mk.inj (Except.ok.inj h)
      exact Or.inr ⟨rfl, e, registry, he, hr, rfl⟩
  | false =>
      rw [if_neg Bool.false_ne_true] at h
      obtain ⟨upper, -, h⟩ := bind_eq_ok_iff.1 h
      obtain ⟨rfl, rfl⟩ := Prod.mk.inj (Except.ok.inj h)
      exact Or.inl ⟨rfl, rfl⟩

/-- Requests of the path, the method and the version of an endpoint find it. -/
theorem Registers.finds {e : Endpoint} (h : g.Registers path method api version e g') :
    g'.registry.lookup path method version = .ok (some e) := by
  rcases configure_eq_ok h.configured with ⟨ht, -⟩ | ⟨-, e', registry, he, hr, rfl⟩
  · simp at ht
  -- the declaration builds one endpoint, so the one that was stored is `e`
  · obtain rfl : e = e' := Except.ok.inj (h.built.symm.trans he)
    exact Registry.lookup_register hr

end Configure

/-! ## An endpoint with one bounded number -/

/-- Declaration of a number that must not exceed a bound. -/
def boundedSpec (max : Int) : Table Value :=
  [(.string "type", .string "number"), (.string "max", .int max)]

/-- Declaration of an endpoint with that parameter. -/
def boundedFields (max : Int) : Table Value :=
  [(.string "params", .map [(.string "n", .map (boundedSpec max))])]

/-- The endpoint of that declaration under defaults without hooks. -/
def boundedEndpoint (max : Int) (development : Bool) : Endpoint where
  path := .string "/items"
  method := .string "GET"
  version := .null
  parameters := [(.string "n", Definition.ofEntries (boundedSpec max) .number)]
  order := standardOrder.map .string
  slot := .string standardSlot
  error := .null
  success := .null
  validate := .null
  description := .null
  development := .bool development

/-- Defaults without hooks that leave the rest as it is. -/
def boundedDefaults (development : Bool) : Defaults :=
  .hookless standardOrder standardSlot development

/-- The gate with that endpoint. -/
def boundedGate (max : Int) (development : Bool) : Gate :=
  ⟨boundedDefaults development,
    Registry.empty.put ⟨.string "/items", .string "GET", .null⟩ (boundedEndpoint max development)⟩

/-- A request of that endpoint that gives the number in its query. -/
def boundedRequest (v : Value) : Inbound :=
  ⟨.string "/items", .string "GET", .null, [(.string "query", .map [(.string "n", v)])]⟩

section Bounded

variable (max : Int) (development : Bool)

theorem upper_get : Text.upper "GET" = "GET" := Text.upper_ascii rfl

theorem upperMethod_get : Endpoint.upperMethod (.string "GET") = .ok (.string "GET") :=
  congrArg (fun s => Except.ok (Value.string s)) upper_get

theorem isVerified_get {api : Value} (h : (api.isNull || api.isCallable) = false) :
    Endpoint.isVerified api (.string "GET") = .ok true := by
  have hget : Text.lower "GET" = "get" := Text.lower_ascii rfl
  have hlower : (Text.lower "GET" != "param") = true := by rw [hget]; rfl
  rw [Endpoint.isVerified, h]
  exact congrArg Except.ok hlower

theorem parse_boundedSpec :
    Definition.ofMapping (boundedSpec max) =
      .ok (Definition.ofEntries (boundedSpec max) .number) := by
  have htoken : Kind.ofToken? "number" = some .number :=
    congrArg Kind.ofName? (Text.lower_trim_ascii rfl)
  have hk : Kind.parse (.string "number") = .ok .number := Kind.parse_of_ofToken? htoken
  exact Definition.ofMapping_of_known rfl rfl hk (Or.inl rfl) (Or.inr (Or.inl ⟨max, rfl⟩))

/-- Under a version the endpoint is the same otherwise. -/
theorem bounded_built_versioned (version : Value) :
    Endpoint.ofDeclaration (.string "/items") (.string "GET") (.map (boundedFields max))
      (boundedDefaults development) version =
      .ok { boundedEndpoint max development with version := Endpoint.normalVersion version } := by
  have hparameters : Endpoint.parseParameters (.string "GET") (.string "/items")
      ((field (boundedFields max) "error").orElse (boundedDefaults development).error)
      ((field (boundedFields max) "success").orElse (boundedDefaults development).success)
      ((field (boundedFields max) "validate").orElse (boundedDefaults development).validate)
      [(.string "n", .map (boundedSpec max))] =
      .ok (boundedEndpoint max development).parameters := by
    rw [Endpoint.parseParameters, Endpoint.parseParameter, Definition.parse, parse_boundedSpec]
    rfl
  have hspecs : (field (boundedFields max) "params").orElse (.map []) =
      .map [(.string "n", .map (boundedSpec max))] := rfl
  have horder : Endpoint.parseOrder ((field (boundedFields max) "param_order").orElse
      (boundedDefaults development).order) = .ok (standardOrder.map .string) := rfl
  have hnames : Value.texts 0 (Table.keys (boundedEndpoint max development).parameters) =
      .ok [Text.codes "n"] := rfl
  rw [Endpoint.ofDeclaration_of_known rfl]
  exact Endpoint.ofFields_of_parts hspecs hparameters upperMethod_get horder hnames

theorem bounded_built :
    Endpoint.ofDeclaration (.string "/items") (.string "GET") (.map (boundedFields max))
      (boundedDefaults development) .null = .ok (boundedEndpoint max development) :=
  bounded_built_versioned max development .null

theorem ofValues_items : EndpointKey.ofValues (.string "/items") (.string "GET") .null =
    .ok ⟨.string "/items", .string "GET", .null⟩ := by
  show Endpoint.upperMethod (.string "GET") >>= _ = _
  rw [upperMethod_get]
  rfl

theorem bounded_registers :
    (Gate.ofDefaults (boundedDefaults development)).Registers (.string "/items") (.string "GET")
      (.map (boundedFields max)) .null (boundedEndpoint max development)
      (boundedGate max development) := by
  refine ⟨?_, bounded_built max development⟩
  have hregister : (Registry.empty : Registry Endpoint).register (.string "/items")
      (.string "GET") .null (boundedEndpoint max development) =
      .ok (boundedGate max development).registry := by
    rw [Registry.register, ofValues_items]
    rfl
  unfold configure
  rw [isVerified_get rfl, ok_bind, if_pos rfl]
  show Endpoint.ofDeclaration _ _ _ (boundedDefaults development) _ >>= _ = _
  rw [bounded_built, ok_bind]
  show Registry.register .empty _ _ _ _ >>= _ = _
  rw [hregister]
  rfl

theorem bounded_finds (v : Value) :
    (boundedGate max development).registry.lookup (boundedRequest v).path (boundedRequest v).method
      (boundedRequest v).version = .ok (some (boundedEndpoint max development)) :=
  (bounded_registers max development).finds

theorem bounded_distinct : Endpoint.DistinctDeclaration (.map (boundedFields max)) := by
  intro entries specs he hs
  obtain rfl := Value.map.inj he
  obtain rfl : [(.string "n", .map (boundedSpec max))] = specs := Value.map.inj hs
  exact Table.distinct_cons_iff.2 ⟨by simp, Table.distinct_nil⟩

theorem bounded_hookless : ∀ s ∈ [(Value.string "n", Value.map (boundedSpec max))],
    Definition.HooklessSpec s.2 := by
  intro s hs
  obtain rfl := List.mem_singleton.1 hs
  constructor
  · rintro ⟨d, hd⟩
    simp at hd
  · intro entries he
    obtain rfl := Value.map.inj he
    exact ⟨rfl, rfl, rfl⟩

theorem bounded_validate : ∀ entry ∈ (boundedEndpoint max development).parameters,
    entry.2.validate = .null := by
  intro entry he
  obtain rfl := List.mem_singleton.1 he
  rfl

/-- The value that is given is the one that is extracted. -/
theorem bounded_extract {v c : Value} (hc : coerce .number false v = .ok c) :
    extract (boundedEndpoint max development) (boundedRequest v) = .ok [(.string "n", c)] := by
  have hsource : (boundedRequest v).source (.string "query") = .ok (.map [(.string "n", v)]) := rfl
  have hparams : (boundedRequest v).source (.string "params") = .ok .null := rfl
  have hbody : (boundedRequest v).source (.string "body") = .ok .null := rfl
  have hnull (params : Table Value) :
      takeSource (boundedEndpoint max development).parameters params .null = .ok params := rfl
  have htake : takeSource (boundedEndpoint max development).parameters []
      (.map [(.string "n", v)]) = .ok [(.string "n", c)] := by
    show (Except.map _ (coerceAs (.kind .number) (.bool false) v) >>= _) = _
    rw [coerceAs_kind]
    show (Except.map _ (coerce .number false v) >>= _) = _
    rw [hc]
    rfl
  show takeSources _ _ [] [.string "params", .string "query", .string "body"] = _
  -- the other two sources of the order are not given and bring nothing
  simp only [takeSources, hparams, hsource, hbody, hnull, ok_bind, htake]

end Bounded

end Gate

end ParamGate
