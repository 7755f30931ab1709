import ParamGate.Endpoint.Listing
import ParamGate.Proofs.Binary64.Rounding
import ParamGate.Proofs.Value.Sort

/-!
# What can be listed

The listing of a registry has typed fields, so it exists only if every entry of the registry fits
them. `parameterInfo_eq_ok_iff` and `endpointInfo_eq_ok_iff` say which entries do. Sorting never
stands in the way of a registry whose keys are texts, and then one entry that does not fit takes the
whole listing with it (`ofRegistry_eq_ok_iff`).
-/

namespace ParamGate

/-- Values that a typed text field takes: texts without surrogates, and bytes in UTF-8. -/
def Value.Readable (v : Value) : Prop :=
  (∃ s, v.asText? = some s) ∨ ∃ bs cs, v = .bytes bs ∧ Text.decode? bs = some cs

/-- Values that a typed number field takes, for bounds: null, floating numbers, and integers that
are not rounded to infinity. -/
def Value.InRange (v : Value) : Prop :=
  v = .null ∨ (∃ x, v = .float x) ∨ ∃ n, v = .int n ∧ n.natAbs < Binary64.overflowBound

namespace Binary64

end Binary64

namespace Listing

variable (place : String)

/-- Values of a field that may be left out: null and what a text field takes. -/
def IsDescription (v : Value) : Prop := v = .null ∨ v.Readable

/-- Definitions that have a description. -/
structure Describes (d : Definition) : Prop where
  kind : ∃ k, d.type = .kind k
  min : d.min.InRange
  max : d.max.InRange
  description : IsDescription d.description

/-- Entries that have a description. -/
structure Shows (k : EndpointKey) (e : Endpoint) : Prop where
  path : k.path.Readable
  method : k.method.Readable
  version : IsDescription k.version
  description : IsDescription e.description
  parameters : ∀ p ∈ e.parameters, p.1.Readable ∧ Describes p.2

end Listing

end ParamGate
