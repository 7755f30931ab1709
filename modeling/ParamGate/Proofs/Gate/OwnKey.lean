import ParamGate.Proofs.Endpoint.KeyOrder
import ParamGate.Proofs.Gate.Listing
import ParamGate.Proofs.Text.Case

/-!
# The key that an endpoint spells

A configuration is brought to normal form twice: once for the fields of its endpoint and once for
the key that the endpoint is stored under. The two agree on path and version, and on every method
that is not empty. An empty method is the one for reading in the key, but stays empty in the
endpoint, so after such a configuration the endpoint does not spell its key
(`Gate.ownKey_of_configured`, `Gate.empty_method_not_spelled`). A look-up takes an empty method for
the one for reading as well, so the fields of an endpoint lead back to it all the same.
-/

namespace ParamGate

/-- The key that the fields of an endpoint spell. -/
def Endpoint.ownKey (e : Endpoint) : EndpointKey := ⟨e.path, e.method, e.version⟩

/-- That key with the method for reading in place of an empty one. -/
def Endpoint.standardKey (e : Endpoint) : EndpointKey :=
  { e.ownKey with method := e.method.orElse (.string standardMethod) }

/-- What a configuration is given. -/
structure Configuration where
  path : Value
  method : Value
  api : Value
  version : Value

def Configuration.operation (c : Configuration) : Gate.Operation :=
  .configure c.path c.method c.api c.version

/-- Texts, and the absence of one. -/
inductive Value.IsOptionalText : Value → Prop
  | null : IsOptionalText .null
  | string (s : String) : IsOptionalText (.string s)
  | illFormed (codes : List Nat) : IsOptionalText (.illFormed codes)

/-- Path and method are texts, and the version is one if it is given. -/
structure Configuration.InText (c : Configuration) : Prop where
  path : c.path.IsOptionalText
  method : c.method.IsOptionalText
  version : c.version.IsOptionalText

/-! ## Texts and their keys -/

namespace Value.IsOptionalText

variable {v w : Value}

/-- Texts are told apart by their keys. -/
theorem eq_of_key (hv : v.IsOptionalText) (hw : w.IsOptionalText) (h : v.key = w.key) : v = w := by
  cases hv with
  | null =>
      cases hw with
      | null => rfl
      | string _ => simp [key] at h
      | illFormed _ => simp [key] at h
  | string _ =>
      cases hw with
      | null => simp [key] at h
      | string _ => simpa [key] using h
      | illFormed _ => simp [key] at h
  | illFormed _ =>
      cases hw with
      | null => simp [key] at h
      | string _ => simp [key] at h
      | illFormed _ => simpa [key] using h

theorem orElse (hv : v.IsOptionalText) (hw : w.IsOptionalText) : (v.orElse w).IsOptionalText := by
  rw [Value.orElse]
  split
  · exact hv
  · exact hw

theorem upperMethod (hv : v.IsOptionalText) (h : Endpoint.upperMethod v = .ok w) :
    w.IsOptionalText := by
  cases hv with
  | null => simp [Endpoint.upperMethod, asText?] at h
  | string s =>
      obtain rfl := Except.ok.inj h
      exact .string _
  | illFormed codes =>
      obtain rfl := Except.ok.inj h
      exact .illFormed _

end Value.IsOptionalText

/-! ## Methods in upper case -/

/-- The letters of ASCII in upper case are none in lower case. -/
theorem Text.upperBytes_upperBytes (bs : List UInt8) :
    upperBytes (upperBytes bs) = upperBytes bs := by
  rw [upperBytes, upperBytes, List.map_map]
  apply List.map_congr_left
  intro b _
  rw [Function.comp_apply]
  split
  · rename_i h
    have hlow : 97 ≤ b.toNat := UInt8.le_iff_toNat_le.1 h.1
    have hhigh : b.toNat ≤ 122 := UInt8.le_iff_toNat_le.1 h.2
    have hsub : (b - 32).toNat = b.toNat - 32 := by
      apply UInt8.toNat_sub_of_le
      rw [UInt8.le_iff_toNat_le]
      exact Nat.le_trans (by decide) hlow
    have hupper : ¬ 97 ≤ b - 32 := by
      rw [UInt8.le_iff_toNat_le, hsub]
      show ¬ 97 ≤ b.toNat - 32
      omega
    rw [if_neg fun h => hupper h.1]
  · rfl

namespace Endpoint

variable {method upper : Value}

/-- Upper case exists of bytes and of texts. -/
theorem upperMethod_eq_ok (h : upperMethod method = .ok upper) :
    (∃ bs, method = .bytes bs ∧ upper = .bytes (Text.upperBytes bs)) ∨
      (∃ codes, method = .illFormed codes ∧ upper = .illFormed (Text.upperCodes codes)) ∨
      ∃ s, method.asText? = some s ∧ upper = .string (Text.upper s) := by
  unfold upperMethod at h
  split at h
  · exact Or.inl ⟨_, rfl, (Except.ok.inj h).symm⟩
  · exact Or.inr (Or.inl ⟨_, rfl, (Except.ok.inj h).symm⟩)
  · split at h
    · rename_i s hs
      exact Or.inr (Or.inr ⟨s, hs, (Except.ok.inj h).symm⟩)
    · simp at h

/-- A method in upper case is empty only if the method is. -/
theorem truthy_upperMethod (h : upperMethod method = .ok upper) : upper.truthy = method.truthy := by
  rcases upperMethod_eq_ok h with ⟨bs, rfl, rfl⟩ | ⟨codes, rfl, rfl⟩ | ⟨s, hs, rfl⟩
  · simp [Value.truthy, Text.upperBytes]
  · rw [Bool.eq_iff_iff]
    simpa [Value.truthy] using not_congr (Text.upperCodes_eq_nil_iff codes)
  · rw [Bool.eq_iff_iff, Value.truthy_text hs, Value.truthy_text rfl]
    exact not_congr (Text.upper_eq_empty_iff s)

/-- A method in upper case is left as it is. -/
theorem upperMethod_upperMethod (h : upperMethod method = .ok upper) :
    upperMethod upper = .ok upper := by
  rcases upperMethod_eq_ok h with ⟨bs, rfl, rfl⟩ | ⟨codes, rfl, rfl⟩ | ⟨s, hs, rfl⟩
  · exact congrArg (fun bs => Except.ok (Value.bytes bs)) (Text.upperBytes_upperBytes bs)
  · exact congrArg (fun ns => Except.ok (Value.illFormed ns)) (Text.upperCodes_upperCodes codes)
  · exact congrArg (fun s => Except.ok (Value.string s)) (Text.upper_upper s)

/-- An empty method in upper case is not the method for reading. -/
theorem key_upperMethod_ne (h : upperMethod method = .ok upper) (hempty : upper.truthy = false) :
    upper.key ≠ (Value.string standardMethod).key := by
  rcases upperMethod_eq_ok h with ⟨bs, rfl, rfl⟩ | ⟨codes, rfl, rfl⟩ | ⟨s, hs, rfl⟩
  · simp [Value.key]
  · simp [Value.key]
  · intro hk
    rw [Key.text.inj hk] at hempty
    exact absurd hempty (by decide)

end Endpoint

/-! ## One configuration -/

section Stores

variable {defaults : Defaults} {c : Configuration} {l : EndpointKey} {e : Endpoint}

/-- The fields of an endpoint are those of its configuration, in normal form. -/
theorem Configuration.fields_of_stores (h : c.operation.stores? defaults = some (l, e)) :
    e.path = c.path ∧ Endpoint.upperMethod c.method = .ok e.method ∧
      e.version = Endpoint.normalVersion c.version := by
  obtain ⟨entries, specs, -, hb⟩ :=
    Endpoint.built_of_ofDeclaration (Gate.Operation.stores?_configure_eq_some h).1
  exact ⟨hb.path_eq, hb.method_eq, hb.version_eq⟩

/-- An endpoint is stored under the key that it spells, with the method for reading if it has
none. -/
theorem Configuration.standardKey_of_stores (h : c.operation.stores? defaults = some (l, e)) :
    e.standardKey = l := by
  obtain ⟨hpath, hmethod, hversion⟩ := fields_of_stores h
  obtain ⟨hlpath, hlversion, hlmethod⟩ :=
    EndpointKey.parse_eq_ok (Gate.Operation.stores?_configure_eq_some h).2
  have hstandard : e.method.orElse (.string standardMethod) = l.method := by
    have htruthy := Endpoint.truthy_upperMethod hmethod
    cases hc : c.method.truthy with
    | true =>
        rw [Value.orElse_of_truthy hc, hmethod] at hlmethod
        rw [Value.orElse_of_truthy (htruthy.trans hc)]
        exact Except.ok.inj hlmethod
    | false =>
        rw [Value.orElse_of_falsy hc, standardMethod, Gate.upperMethod_get] at hlmethod
        rw [Value.orElse_of_falsy (htruthy.trans hc)]
        exact Except.ok.inj hlmethod
  rw [Endpoint.standardKey, Endpoint.ownKey, hstandard, hpath, hversion, ← hlpath, ← hlversion]

/-- An endpoint spells the key that it is stored under unless its method was empty. -/
theorem Configuration.ownKey_of_stores (h : c.operation.stores? defaults = some (l, e)) :
    e.ownKey.id = l.id ↔ c.method.truthy = true := by
  obtain ⟨-, hmethod, -⟩ := fields_of_stores h
  have hstandard := standardKey_of_stores h
  rw [← Endpoint.truthy_upperMethod hmethod]
  constructor
  · intro hid
    by_contra hempty
    rw [Bool.not_eq_true] at hempty
    rw [← hstandard, Endpoint.standardKey, Value.orElse_of_falsy hempty] at hid
    obtain ⟨-, hid⟩ := Prod.mk.inj hid
    exact Endpoint.key_upperMethod_ne hmethod hempty (Prod.mk.inj hid).1
  · intro htruthy
    rw [← hstandard, Endpoint.standardKey, Value.orElse_of_truthy htruthy]
    rfl

/-- The fields of an endpoint make the key that it is stored under. -/
theorem Configuration.parse_of_stores (h : c.operation.stores? defaults = some (l, e)) :
    EndpointKey.parse e.path e.method e.version = .ok l := by
  obtain ⟨-, -, hversion⟩ := fields_of_stores h
  have hl := (Gate.Operation.stores?_configure_eq_some h).2
  obtain ⟨-, -, hlmethod⟩ := EndpointKey.parse_eq_ok hl
  have hstandard := standardKey_of_stores h
  have hvalues : EndpointKey.ofValues e.path e.method e.version = .ok l := by
    have hmethod : e.method.orElse (.string standardMethod) = l.method := by
      rw [← hstandard]
      rfl
    have hnormal : Endpoint.normalVersion e.version = e.version := by
      rw [hversion, Endpoint.normalVersion_normalVersion]
    rw [EndpointKey.ofValues, hmethod, Endpoint.upperMethod_upperMethod hlmethod, hnormal,
      ← hmethod]
    exact congrArg Except.ok hstandard
  obtain ⟨l', -, hchecked⟩ := bind_eq_ok_iff.1 hl
  have hself : l' = l := by
    unfold EndpointKey.checked at hchecked
    split at hchecked
    · simp at hchecked
    · simp at hchecked
    · exact Except.ok.inj hchecked
  rw [EndpointKey.parse, hvalues, ok_bind, ← hself]
  rw [← hself] at hchecked
  exact hchecked

/-- The key of texts is one of texts. -/
theorem Configuration.InText.stores (hc : c.InText)
    (h : c.operation.stores? defaults = some (l, e)) :
    l.path.IsOptionalText ∧ l.method.IsOptionalText ∧ l.version.IsOptionalText := by
  obtain ⟨hpath, hversion, hmethod⟩ :=
    EndpointKey.parse_eq_ok (Gate.Operation.stores?_configure_eq_some h).2
  rw [hpath, hversion]
  exact ⟨hc.path, (hc.method.orElse (.string standardMethod)).upperMethod hmethod,
    hc.version.orElse .null⟩

end Stores

/-! ## Any number of configurations -/

namespace Gate

variable {defaults : Defaults} {calls : List Configuration} {k : EndpointKey} {e : Endpoint}

/-- The gate after configurations, of which those that fail change nothing. -/
def configured (defaults : Defaults) (calls : List Configuration) : Gate :=
  (ofDefaults defaults).run (calls.map Configuration.operation)

theorem storedBy_configurations (calls : List Configuration) :
    storedBy defaults (calls.map Configuration.operation) =
      calls.filterMap fun c => c.operation.stores? defaults := by
  rw [storedBy_of_not_clear, List.filterMap_map]
  · rfl
  · intro op hop
    obtain ⟨c, -, rfl⟩ := List.mem_map.1 hop
    rfl

/-- Every entry is what the last configuration for its key stored. -/
theorem last_configuration (h : (k, e) ∈ (configured defaults calls).registry.entries) :
    ∃ before c after l, calls = before ++ c :: after ∧
      c.operation.stores? defaults = some (l, e) ∧ l.id = k.id ∧
      ∀ d ∈ after, ∀ s, d.operation.stores? defaults = some s → s.1.id ≠ k.id := by
  have hlatest := latest?_of_mem_run defaults h
  rw [storedBy_configurations] at hlatest
  obtain ⟨earlier, l, later, hstored, hl, hlater⟩ := latest?_eq_some hlatest
  obtain ⟨front, rest, rfl, -, hrest⟩ := List.filterMap_eq_append_iff.1 hstored
  obtain ⟨idle, c, after, rfl, -, hc, hafter⟩ := List.filterMap_eq_cons_iff.1 hrest
  refine ⟨front ++ idle, c, after, l, (List.append_assoc ..).symm, hc, hl, ?_⟩
  intro d hd s hs
  apply hlater s
  rw [← hafter]
  exact List.mem_filterMap.2 ⟨d, hd, hs⟩

/-- A key in the registry is that of one of the configurations. -/
theorem first_configuration (h : (k, e) ∈ (configured defaults calls).registry.entries) :
    ∃ c ∈ calls, ∃ e', c.operation.stores? defaults = some (k, e') := by
  rw [configured, run_ofDefaults, storedBy_configurations] at h
  obtain ⟨⟨e', he⟩, -⟩ := Registry.origin_of_mem_putAll h
  obtain ⟨c, hc, hs⟩ := List.mem_filterMap.1 he
  exact ⟨c, hc, e', hs⟩

/-- If all configurations are in text, every entry spells its key, with the method for reading if it
has none. -/
theorem standardKey_of_inText (htext : ∀ c ∈ calls, c.InText)
    (h : (k, e) ∈ (configured defaults calls).registry.entries) : e.standardKey = k := by
  -- the key may be older than the endpoint, but texts with the same key are equal
  obtain ⟨first, hfirst, e', hk⟩ := first_configuration h
  obtain ⟨before, c, after, l, rfl, hc, hl, -⟩ := last_configuration h
  obtain ⟨hkpath, hkmethod, hkversion⟩ := (htext first hfirst).stores hk
  obtain ⟨hlpath, hlmethod, hlversion⟩ := (htext c (by simp)).stores hc
  obtain ⟨hpath, hid⟩ := Prod.mk.inj hl
  obtain ⟨hmethod, hversion⟩ := Prod.mk.inj hid
  rw [Configuration.standardKey_of_stores hc]
  cases l
  cases k
  rw [EndpointKey.mk.injEq]
  exact ⟨hlpath.eq_of_key hkpath hpath, hlmethod.eq_of_key hkmethod hmethod,
    hlversion.eq_of_key hkversion hversion⟩

/-- Whatever was configured, every entry of the registry is what the last configuration for its key
stored, and it spells that key exactly if the method of this configuration was not empty. After an
empty method the endpoint has an empty one and its key has the one for reading; path and version
agree in any case. A look-up with the fields of an endpoint finds it even then. -/
theorem ownKey_of_configured (h : (k, e) ∈ (configured defaults calls).registry.entries) :
    (∃ before c after l, calls = before ++ c :: after ∧
      c.operation.stores? defaults = some (l, e) ∧ l.id = k.id ∧
      (∀ d ∈ after, ∀ s, d.operation.stores? defaults = some s → s.1.id ≠ k.id) ∧
      e.method.truthy = c.method.truthy) ∧
    e.standardKey.id = k.id ∧ (e.ownKey.id = k.id ↔ e.method.truthy = true) ∧
    (configured defaults calls).registry.lookup e.path e.method e.version = .ok (some e) ∧
    ((∀ c ∈ calls, c.InText) → e.standardKey = k ∧ (e.ownKey = k ↔ e.method.truthy = true)) := by
  obtain ⟨before, c, after, l, hcalls, hc, hl, hlast⟩ := last_configuration h
  have htruthy : e.method.truthy = c.method.truthy :=
    Endpoint.truthy_upperMethod (Configuration.fields_of_stores hc).2.1
  have hstandard : e.standardKey.id = k.id := by rw [Configuration.standardKey_of_stores hc, hl]
  have hown : e.ownKey.id = k.id ↔ e.method.truthy = true := by
    rw [htruthy, ← hl]
    exact Configuration.ownKey_of_stores hc
  refine ⟨⟨before, c, after, l, hcalls, hc, hl, hlast, htruthy⟩, hstandard, hown, ?_, ?_⟩
  · have hget : (configured defaults calls).registry.get? l = some e := by
      rw [Registry.get?, hl]
      exact Registry.get?_of_mem (nodup_ids_run defaults _) h
    rw [Registry.lookup_eq, Configuration.parse_of_stores hc, map_ok, Registry.find?, hget]
  · intro htext
    have hk := standardKey_of_inText htext h
    refine ⟨hk, fun hkey => hown.1 (by rw [hkey]), fun htrue => ?_⟩
    rw [← hk, Endpoint.standardKey, Value.orElse_of_truthy htrue]
    rfl

/-! ## One configuration with and without a method -/

/-- Configuring the endpoint with one bounded number under a method. -/
def boundedConfiguration (method : String) : Configuration :=
  ⟨.string "/items", .string method, .map (boundedFields 3), .null⟩

/-- Without a method the endpoint is stored under the key for reading, but its own stays empty. -/
theorem configured_bounded {method : String} (hmethod : method = "" ∨ method = standardMethod) :
    (configured (boundedDefaults false) [boundedConfiguration method]).registry.entries =
      [(⟨.string "/items", .string standardMethod, .null⟩,
        { boundedEndpoint 3 false with method := .string method })] := by
  have hverified : Endpoint.isVerified (.map (boundedFields 3)) (.string method) = .ok true := by
    rcases hmethod with rfl | rfl
    · rfl
    · exact isVerified_get rfl
  have hupper : Endpoint.upperMethod (.string method) = .ok (.string method) := by
    rcases hmethod with rfl | rfl
    · rfl
    · exact upperMethod_get
  have hkey : EndpointKey.parse (.string "/items") (.string method) .null =
      .ok ⟨.string "/items", .string standardMethod, .null⟩ := by
    have hstandard : (if method = "" then standardMethod else method) = standardMethod := by
      rcases hmethod with rfl | rfl
      · rfl
      · exact if_neg (by decide)
    rw [EndpointKey.parse_text "/items" method rfl, EndpointKey.ofText, hstandard, standardMethod,
      upper_get]
    rfl
  have hbuilt := Endpoint.ofDeclaration_method (bounded_built 3 false) hupper
  have hstores : (boundedConfiguration method).operation.stores? (boundedDefaults false) =
      some (⟨.string "/items", .string standardMethod, .null⟩,
        { boundedEndpoint 3 false with method := .string method }) := by
    rw [boundedConfiguration, Configuration.operation, Operation.stores?, hverified, hbuilt, hkey]
  have hstored : [boundedConfiguration method].filterMap
      (fun c => c.operation.stores? (boundedDefaults false)) = [_] :=
    List.filterMap_cons_some hstores
  rw [configured, run_ofDefaults, storedBy_configurations, hstored]
  rfl

theorem ownKey_of_configured_get : ∃ k e,
    (k, e) ∈ (configured (boundedDefaults false)
      [boundedConfiguration standardMethod]).registry.entries ∧
    e.method.truthy = true ∧ e.ownKey = k := by
  have hentries := configured_bounded (Or.inr rfl)
  have hmem := List.mem_singleton_self
    ((⟨.string "/items", .string standardMethod, .null⟩ : EndpointKey),
      { boundedEndpoint 3 false with method := .string standardMethod })
  rw [← hentries] at hmem
  obtain ⟨-, -, -, -, htext⟩ := ownKey_of_configured hmem
  have hcalls : ∀ c ∈ [boundedConfiguration standardMethod], c.InText := by
    intro c hc
    obtain rfl := List.mem_singleton.1 hc
    exact ⟨.string _, .string _, .null⟩
  exact ⟨_, _, hmem, rfl, (htext hcalls).2.2 rfl⟩

/-- An endpoint that is configured with an empty method is the one for reading, and does not say
so. -/
theorem empty_method_not_spelled : ∃ k e,
    (configured (boundedDefaults false) [boundedConfiguration ""]).registry.entries = [(k, e)] ∧
      k.method = .string "GET" ∧ e.method = .string "" ∧ e.ownKey.id ≠ k.id := by
  refine ⟨_, _, configured_bounded (Or.inl rfl), rfl, rfl, ?_⟩
  simp [Endpoint.ownKey, EndpointKey.id, Value.key, standardMethod]

end Gate

end ParamGate
