import ParamGate.Proofs.Gate.Extraction
import ParamGate.Proofs.Gate.Registration
import ParamGate.Proofs.Gate.Ruling

/-!
# What handlers can rely on

A handler behind a gate reads the map that was attached to its request. `Guaranteed` says what one
parameter of that map is worth: which value it has, that it is there if it is required, and that the
entries of a text or a number lie within the bounds. `Gate.accepts_guaranteed` proves it of every
parameter of every request that is accepted for a registered endpoint whose parameters have no
validate hook in force, and says that the map has the declared names and no others.
-/

namespace ParamGate

open Text

/-- What acceptance guarantees of a parameter, by the value extracted for it and the value that is
attached under its name. -/
structure Guaranteed (d : Definition) (given value : Value) : Prop where
  value_eq : value = if given.isNull then d.default else given
  present : d.required.truthy = true → value ≠ .null ∧ value ≠ .list []
  length : d.type = .kind .string → ∀ entry ∈ checkedEntries given, entry.truthy = true →
    ∃ n, entry.textLength = .ok n ∧ ¬ (Value.int n).Above d.max ∧ ¬ (Value.int n).Below d.min
  number : d.type = .kind .number → ∀ entry ∈ checkedEntries given, entry.truthy = true →
    ¬ entry.Above d.max ∧ ¬ entry.Below d.min

theorem isMissing_eq_false {v : Value} (h : isMissing v = false) : v ≠ .null ∧ v ≠ .list [] := by
  constructor
  · rintro rfl
    simp [isMissing] at h
  · rintro rfl
    simp [isMissing] at h

theorem WithinBounds.length {d : Definition} {entry : Value} (hd : d.type = .kind .string)
    (h : WithinBounds d entry) :
    ∃ n, entry.textLength = .ok n ∧ ¬ (Value.int n).Above d.max ∧ ¬ (Value.int n).Below d.min := by
  obtain ⟨measured, hmeasured, hb⟩ := h
  rw [hd, measure_string] at hmeasured
  obtain ⟨n, hn, rfl⟩ := map_eq_ok_iff.1 hmeasured
  obtain ⟨habove, hbelow⟩ := hb _ rfl
  exact ⟨n, hn, not_above_of_passes habove, not_below_of_passes hbelow⟩

theorem WithinBounds.number {d : Definition} {entry : Value} (hd : d.type = .kind .number)
    (h : WithinBounds d entry) : ¬ entry.Above d.max ∧ ¬ entry.Below d.min := by
  obtain ⟨measured, hmeasured, hb⟩ := h
  rw [hd, measure_number] at hmeasured
  obtain ⟨habove, hbelow⟩ := hb entry (Except.ok.inj hmeasured).symm
  exact ⟨not_above_of_passes habove, not_below_of_passes hbelow⟩

/-- A value about which nothing is found has what is guaranteed, after its default is filled in. -/
theorem guaranteed_of_inspect {d : Definition} {given : Value} (h : inspect d given = .ok none) :
    Guaranteed d given (if given.isNull then d.default else given) := by
  obtain ⟨hpresent, hbounds⟩ := inspect_eq_none h
  refine ⟨rfl, ?_, ?_, ?_⟩
  · intro hr
    obtain ⟨hnull, hnil⟩ := isMissing_eq_false (hpresent hr)
    -- a required value that passes is not null, so no default takes its place
    have hn : given.isNull = false := by
      cases given with
      | null => exact absurd rfl hnull
      | _ => rfl
    rw [hn]
    exact ⟨hnull, hnil⟩
  · intro hd entry hm ht
    exact (hbounds entry hm ht).length hd
  · intro hd entry hm ht
    exact (hbounds entry hm ht).number hd

namespace Gate

section Acceptance

variable {h : Gate} {hooks : Hooks} {r : Inbound} {x y : Exchange} {e : Endpoint}
  {params : Table Value} {name : Codes}

/-- Where no validate hook is in force, an accepted request has values about which nothing is
found. -/
theorem Accepts.inspect (ha : h.Accepts hooks r x e params name y)
    (hv : ∀ entry ∈ e.parameters, entry.2.validate.isCallable = false)
    {entry : Value × Definition} (he : entry ∈ e.parameters) :
    ParamGate.inspect entry.2 (valueOf params entry.1) = .ok none := by
  have hc := ha.examined.checked
  rw [Run.exec_onEvents] at hc
  -- only the outcome is known; the events are whatever the check left
  have hcheck : (check hooks params e.parameters).exec x.events =
      (.ok [], ((check hooks params e.parameters).exec x.events).2) :=
    Prod.ext (Prod.mk.inj hc).1 rfl
  -- nothing could be called, yet the check ended, so no hook had a say
  have hall := check_exec_of_null hooks params x.events
    (null_of_check_eq_ok hv hcheck)
  rw [hall] at hcheck
  exact inspectAll_eq_nil (Prod.mk.inj hcheck).1 he

/-- The names of the attached map are those of the endpoint's parameters. -/
theorem get?_isSome_attached (hx : extract e r = .ok params) (n : Value) :
    ((fillDefaults e.parameters params).get? n).isSome ↔ (e.parameters.get? n).isSome := by
  rw [get?_isSome_fillDefaults]
  -- extracted names are declared ones, so filling in the defaults decides the names
  refine or_iff_right_of_imp ?_
  intro hn
  obtain ⟨v, hv⟩ := Option.isSome_iff_exists.1 hn
  obtain ⟨d, -, hd, -, -⟩ := extract_origin hx hv
  rw [hd]
  rfl

/-- A request that is accepted for a registered endpoint, none of whose parameters has a validate
hook in force, goes on with a map of exactly the declared names, in which every parameter has what
is guaranteed. -/
theorem accepts_guaranteed {g g' : Gate} {path method api version : Value}
    (hreg : g.Registers path method api version e g') (hapi : Endpoint.DistinctDeclaration api)
    (hv : ∀ entry ∈ e.parameters, entry.2.validate.isCallable = false)
    (ha : h.Accepts hooks r x e params name y) :
    ∃ entries specs m : Table Value, api = .map entries ∧
      (field entries "params").orElse (.map []) = .map specs ∧
      (h.verify hooks r).exec x =
        ((acceptedRuling e).carryOut hooks).exec
          { y with attributes := y.attributes.set name (.map m) } ∧
      m.Distinct ∧ (∀ n, (m.get? n).isSome ↔ (Table.get? specs n).isSome) ∧
      ∀ n d, (n, d) ∈ e.parameters → Guaranteed d (valueOf params n) (valueOf m n) := by
  obtain ⟨entries, specs, rfl, hb⟩ := Endpoint.built_of_ofDeclaration hreg.built
  have hx := ha.examined.extracted
  refine ⟨entries, specs, fillDefaults e.parameters params, rfl, hb.specs_eq, ?_, ?_, ?_, ?_⟩
  · rw [verify_eq, Run.exec_bind_of_ok (rule_exec_of_rules (.accepted ha))]
    rfl
  · exact distinct_fillDefaults (extract_distinct hx)
  · intro n
    rw [get?_isSome_attached hx]
    exact Table.get?_isSome_congr hb.keys_eq n
  · intro n d hd
    rw [valueOf_fillDefaults (hb.distinct_parameters hapi) hd]
    exact guaranteed_of_inspect (ha.inspect hv hd)

/-- A number within its bound passes the check. -/
theorem bounded_inspect_two :
    ParamGate.inspect (Definition.ofEntries (boundedSpec 3) .number) (.float (.ofInt 2)) =
      .ok none := by
  have hd := Definition.parsed_ofMapping (parse_boundedSpec 3)
  have hs : Suits .number (.float (.ofInt 2)) :=
    ⟨.single (Or.inr ⟨_, rfl, Binary64.isNaN_ofInt 2⟩), fun hk => by simp at hk⟩
  have hnone : (expectedFinding? (Definition.ofEntries (boundedSpec 3) .number)
      (.float (.ofInt 2))).isNone = true := by decide +kernel
  -- the position of 2 is computed, but that no comparison fails follows from the form of the value
  refine inspect_eq_ok_none ?_ (Option.isNone_iff_eq_none.1 hnone)
  rw [inspect_fault_iff hd rfl hs]
  rintro ⟨entry, he, -, -, items, rfl, -⟩
  simp [checkedEntries] at he

theorem bounded_accepts_two :
    (boundedGate 3 false).Accepts (Hooks.ofList []) (boundedRequest (.int 2)) .fresh
      (boundedEndpoint 3 false) [(.string "n", .float (.ofInt 2))] (codes "args") .fresh := by
  refine ⟨⟨bounded_finds 3 false (.int 2), bounded_extract 3 false rfl, ?_⟩, rfl⟩
  have hall : inspectAll [(.string "n", .float (.ofInt 2))] (boundedEndpoint 3 false).parameters =
      .ok [] := by
    show ParamGate.inspect _ (.float (.ofInt 2)) >>= _ = _
    rw [bounded_inspect_two]
    rfl
  rw [Run.exec_onEvents, check_exec_of_null _ _ _ (bounded_validate 3 false), hall]

/-- The handler of an accepted request gets the number that was given. -/
theorem accepts_guaranteed_two :
    (Gate.ofDefaults (boundedDefaults false)).Registers (.string "/items") (.string "GET")
        (.map (boundedFields 3)) .null (boundedEndpoint 3 false) (boundedGate 3 false) ∧
      Endpoint.DistinctDeclaration (.map (boundedFields 3)) ∧
      (∀ entry ∈ (boundedEndpoint 3 false).parameters, entry.2.validate.isCallable = false) ∧
      (boundedGate 3 false).Accepts (Hooks.ofList []) (boundedRequest (.int 2)) .fresh
        (boundedEndpoint 3 false) [(.string "n", .float (.ofInt 2))] (codes "args") .fresh ∧
      ∃ m : Table Value,
        ((boundedGate 3 false).verify (Hooks.ofList []) (boundedRequest (.int 2))).exec .fresh =
          (continueChain : Run Exchange Unit).exec ⟨[(codes "args", .map m)], none, 0, []⟩ ∧
        valueOf m (.string "n") = .float (.ofInt 2) := by
  have hv : ∀ entry ∈ (boundedEndpoint 3 false).parameters,
      entry.2.validate.isCallable = false := by
    intro entry he
    rw [bounded_validate 3 false entry he]
    rfl
  refine ⟨bounded_registers 3 false, bounded_distinct 3, hv, bounded_accepts_two, ?_⟩
  obtain ⟨_, _, m, -, -, hrun, -, -, hm⟩ := accepts_guaranteed (bounded_registers 3 false)
    (bounded_distinct 3) hv bounded_accepts_two
  exact ⟨m, hrun, (hm _ _ List.mem_cons_self).value_eq⟩

end Acceptance

end Gate

end ParamGate
