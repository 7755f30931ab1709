import ParamGate.Proofs.Gate.Extraction
import ParamGate.Proofs.Gate.Registration

/-!
# Required parameters

Whatever a text or a mapping declares, the definition that is read from it is in normal form, and
an endpoint only fills in hooks. So in an endpoint whose parameters are declared in these two ways
a required parameter has no default, and filling in defaults leaves its value as the request gave it
(`required_not_filled`).
-/

namespace ParamGate

/-- Declarations of an endpoint that declare every parameter by a text or a mapping, and by no ready
definition. -/
def Endpoint.DeclaresAnew (api : Value) : Prop :=
  ∀ entries specs, api = .map entries → field entries "params" = .map specs →
    ∀ s ∈ specs, ¬ Definition.IsDefinition s.2

/-- Parameters that are declared anew are in normal form, with the hooks of their endpoint. -/
theorem Endpoint.parsed_of_ofDeclaration {path method api version : Value} {defaults : Defaults}
    {e : Endpoint} (hapi : DeclaresAnew api)
    (h : ofDeclaration path method api defaults version = .ok e) {name : Value} {d : Definition}
    (hd : (name, d) ∈ e.parameters) : d.Parsed := by
  obtain ⟨entries, specs, rfl, hb⟩ := built_of_ofDeclaration h
  obtain ⟨spec, own, hspec, hown, rfl⟩ := hb.mem_parameters hd
  apply Definition.Parsed.withHooks
  rcases hb.declared_or_nil with hspecs | rfl
  · exact Definition.parse_parsed hown (hapi entries specs rfl hspecs (name, spec) hspec)
  · simp at hspec

/-- A parameter in normal form that is required keeps its value when defaults are filled in, even
if it has none. -/
theorem Definition.Parsed.valueOf_fillDefaults {declared : Table Definition} {name : Value}
    {d : Definition} (h : d.Parsed) (hdistinct : Table.Distinct declared)
    (hd : (name, d) ∈ declared) (hr : d.required = .bool true) (params : Table Value) :
    valueOf (fillDefaults declared params) name = valueOf params name := by
  rw [ParamGate.valueOf_fillDefaults hdistinct hd, h.default_null hr]
  split
  · rename_i hnull
    exact (Value.isNull_iff.1 hnull).symm
  · rfl

/-- A definition that is read from a text or a mapping has one of the types, a flag for arrays,
bounds that are null or numbers, and no default if it is required; so have the parameters of an
endpoint that declares them in this way. Filling in defaults never gives a required parameter a
value. -/
theorem required_not_filled :
    (∀ spec d, ¬ Definition.IsDefinition spec → Definition.parse spec = .ok d → d.Parsed) ∧
    ∀ path method api defaults version e, Endpoint.DeclaresAnew api →
      Endpoint.DistinctDeclaration api →
      Endpoint.ofDeclaration path method api defaults version = .ok e →
      ∀ name d, (name, d) ∈ e.parameters →
        d.Parsed ∧ (d.required = .bool true →
          ∀ params, valueOf (fillDefaults e.parameters params) name = valueOf params name) := by
  refine ⟨fun spec d hs h => Definition.parse_parsed h hs, ?_⟩
  intro path method api defaults version e hapi hdistinct h name d hd
  have hparsed := Endpoint.parsed_of_ofDeclaration hapi h hd
  refine ⟨hparsed, ?_⟩
  intro hr params
  obtain ⟨entries, specs, rfl, hb⟩ := Endpoint.built_of_ofDeclaration h
  exact hparsed.valueOf_fillDefaults (hb.distinct_parameters hdistinct) hd hr params

/-- A number that is declared with a bound alone is required, and stays null without a value. -/
theorem required_not_filled_bounded :
    Endpoint.DeclaresAnew (.map (Gate.boundedFields 3)) ∧
      Endpoint.DistinctDeclaration (.map (Gate.boundedFields 3)) ∧
      Endpoint.ofDeclaration (.string "/items") (.string "GET") (.map (Gate.boundedFields 3))
        (Gate.boundedDefaults false) .null = .ok (Gate.boundedEndpoint 3 false) ∧
      Definition.Parsed (.ofEntries (Gate.boundedSpec 3) .number) ∧
      valueOf (fillDefaults (Gate.boundedEndpoint 3 false).parameters []) (.string "n") =
        .null := by
  have hanew : Endpoint.DeclaresAnew (.map (Gate.boundedFields 3)) := by
    intro entries specs he hs
    obtain rfl := Value.map.inj he
    obtain rfl : [(.string "n", .map (Gate.boundedSpec 3))] = specs := Value.map.inj hs
    intro s hmem
    exact (Gate.bounded_hookless 3 s hmem).notDefinition
  have hdistinct := Gate.bounded_distinct 3
  have hbuilt := Gate.bounded_built 3 false
  obtain ⟨hparsed, hfilled⟩ := required_not_filled.2 _ _ _ _ _ _ hanew hdistinct hbuilt
    (.string "n") _ List.mem_cons_self
  exact ⟨hanew, hdistinct, hbuilt, hparsed, hfilled rfl []⟩

end ParamGate
