import ParamGate.Proofs.Endpoint.Build
import ParamGate.Proofs.Parameter.Mistakes

/-!
# Mistakes in the declaration of an endpoint

The declarations of the parameters are read in order, and the first that is wrong decides how
building an endpoint ends (`parseParameters_of_first`, `first_of_parseParameters`). Its mistake is
reported again with the name of the parameter. `Endpoint.Unreportable` lists the declarations for
which building ends with a fault that is no mistake: a message cannot be made, the order of the
sources has no parts, or a parameter is named by something other than a text. Main statement:
`escapes_iff_unreportable`.
-/

namespace ParamGate

open Text

namespace Endpoint

/-! ## The first declaration that is wrong -/

/-- Declarations of parameters that are all read. -/
def AllRead (specs : Table Value) : Prop := ∀ s ∈ specs, ∃ d, Definition.parse s.2 = .ok d

theorem allRead_cons_iff {s : Value × Value} {specs : Table Value} :
    AllRead (s :: specs) ↔ (∃ d, Definition.parse s.2 = .ok d) ∧ AllRead specs :=
  List.forall_mem_cons

/-- A declaration that is read is taken as it is read. -/
theorem parseParameter_of_ok {method path name spec : Value} {d : Definition}
    (h : Definition.parse spec = .ok d) : parseParameter method path name spec = .ok d := by
  rw [parseParameter, h]

/-- Messages show the place of an endpoint by its method and its path. -/
@[simp] theorem place_ofCodes (path method : Codes) :
    place (.ofCodes method) (.ofCodes path) = .ok (method ++ codes " " ++ path) := by
  rw [place, Value.textCodes_ofCodes, Value.textCodes_ofCodes]
  rfl

/-- Every text has an upper case. -/
theorem exists_upperMethod (method : Codes) :
    ∃ upper, upperMethod (.ofCodes method) = .ok upper := by
  rcases Value.ofCodes_isText method with ⟨s, hs⟩ | ⟨codes, hs⟩
  · rw [hs]
    exact ⟨_, rfl⟩
  · rw [hs]
    exact ⟨_, rfl⟩

/-- A mistake is reported again with its place and the name of the parameter. -/
theorem parseParameter_of_mistake (path method : Codes) {name spec : Value}
    {cause : DeclarationError} (h : Definition.parse spec = .error (.declaration cause)) :
    parseParameter (.ofCodes method) (.ofCodes path) name spec =
      name.textCodes >>= fun shown =>
        refuse (.parameter (method ++ codes " " ++ path) shown cause) := by
  simp only [parseParameter, h, place_ofCodes, ok_bind]

/-- Any other fault is passed on. -/
theorem parseParameter_of_escape {method path name spec : Value} {fault : Fault}
    (h : Definition.parse spec = .error fault) (hn : ¬ fault.IsMistake) :
    parseParameter method path name spec = .error fault := by
  rw [parseParameter, h]
  cases fault with
  | declaration cause => exact absurd ⟨cause, rfl⟩ hn
  | _ => rfl

theorem escapes_parseParameter_iff {path method : Codes} {name spec : Value} :
    Escapes (parseParameter (.ofCodes method) (.ofCodes path) name spec) ↔
      Escapes (Definition.parse spec) ∨
        (∃ cause, Definition.parse spec = .error (.declaration cause)) ∧ name.Oversized := by
  cases h : Definition.parse spec with
  | ok d => simp [parseParameter_of_ok h]
  | error fault =>
      by_cases hm : fault.IsMistake
      · obtain ⟨cause, rfl⟩ := hm
        rw [parseParameter_of_mistake path method h, escapes_refuse_iff,
          (Value.textCodes_limitedBy name).escapes_iff, escapes_error_iff]
        simp [Fault.IsMistake]
      · rw [parseParameter_of_escape h hm, escapes_error_iff]
        simp [hm]

section Parameters

variable {method path error success validate : Value}

/-- The first declaration that is wrong decides, whatever follows it. -/
theorem parseParameters_of_first {before after : Table Value} {name spec : Value} {fault : Fault}
    (hb : AllRead before) (hf : parseParameter method path name spec = .error fault) :
    parseParameters method path error success validate (before ++ (name, spec) :: after) =
      .error fault := by
  induction before with
  | nil => rw [List.nil_append, parseParameters, hf, error_bind]
  | cons s before ih =>
      obtain ⟨⟨d, hd⟩, hb⟩ := allRead_cons_iff.1 hb
      rw [List.cons_append, parseParameters, parseParameter_of_ok hd, ok_bind, ih hb, error_bind]

/-- Declarations that are not accepted have a first one that is wrong. -/
theorem first_of_parseParameters {specs : Table Value} {fault : Fault}
    (h : parseParameters method path error success validate specs = .error fault) :
    ∃ before name spec after, specs = before ++ (name, spec) :: after ∧ AllRead before ∧
      parseParameter method path name spec = .error fault := by
  induction specs with
  | nil => simp [parseParameters] at h
  | cons s specs ih =>
      obtain ⟨n, spec⟩ := s
      rw [parseParameters] at h
      rcases bind_eq_error_iff.1 h with hf | ⟨d, hd, h⟩
      · exact ⟨[], n, spec, specs, rfl, by simp [AllRead], hf⟩
      · rcases bind_eq_error_iff.1 h with h | ⟨others, -, h⟩
        · obtain ⟨before, name, wrong, after, rfl, hb, hf⟩ := ih h
          have hread : AllRead ((n, spec) :: before) :=
            allRead_cons_iff.2 ⟨⟨d, parseParameter_eq_ok hd⟩, hb⟩
          exact ⟨(n, spec) :: before, name, wrong, after, rfl, hread, hf⟩
        · simp at h

/-- Parameters are accepted when all their declarations are read. -/
theorem parseParameters_eq_ok_iff {specs : Table Value} :
    (∃ parameters, parseParameters method path error success validate specs = .ok parameters) ↔
      AllRead specs := by
  induction specs with
  | nil => exact iff_of_true ⟨[], rfl⟩ (by simp [AllRead])
  | cons s specs ih =>
      rw [allRead_cons_iff, ← ih, parseParameters]
      constructor
      · rintro ⟨parameters, h⟩
        obtain ⟨d, hd, h⟩ := bind_eq_ok_iff.1 h
        obtain ⟨others, hothers, -⟩ := bind_eq_ok_iff.1 h
        exact ⟨⟨d, parseParameter_eq_ok hd⟩, others, hothers⟩
      · rintro ⟨⟨d, hd⟩, others, hothers⟩
        exact ⟨_, by rw [parseParameter_of_ok hd, ok_bind, hothers, ok_bind]⟩

end Parameters

/-! ## Building from known fields -/

/-- The declarations of parameters that a mapping gives; what is not true there gives none. -/
def Declares (entries specs : Table Value) : Prop :=
  (field entries "params").orElse (.map []) = .map specs

/-- The order of the sources, of the declaration or else of the defaults. -/
def orderField (entries : Table Value) (defaults : Defaults) : Value :=
  (field entries "param_order").orElse defaults.order

theorem parts?_of_codes? {v : Value} {s : Codes} (h : v.codes? = some s) :
    ∃ vs, v.parts? = some vs := by
  cases v with
  | string s => exact ⟨_, rfl⟩
  | illFormed codes => exact ⟨_, rfl⟩
  | kind k => exact ⟨_, rfl⟩
  | _ => simp [Value.codes?] at h

/-- An order is a text or has parts. -/
theorem parseOrder_eq_ok_iff {order : Value} :
    (∃ names, parseOrder order = .ok names) ↔ order.parts?.isSome = true := by
  unfold parseOrder Value.parts
  cases ht : order.codes? with
  | some s =>
      obtain ⟨vs, hvs⟩ := parts?_of_codes? ht
      simp [hvs]
  | none => cases order.parts? <;> simp

theorem escapes_parseOrder_iff {order : Value} :
    Escapes (parseOrder order) ↔ order.parts? = none := by
  have hfaults : ∀ fault, parseOrder order = .error fault → ¬ fault.IsMistake := by
    rintro fault h ⟨cause, rfl⟩
    -- the only fault is that there are no parts
    unfold parseOrder Value.parts at h
    split at h
    · simp at h
    · split at h
      · simp at h
      · simp at h
  rw [escapes_iff_not_ok hfaults, parseOrder_eq_ok_iff, Option.not_isSome_iff_eq_none]

section Fields

variable {path method : Codes} {entries specs : Table Value} {defaults : Defaults}
  {version : Value}

variable (path method defaults version) in
/-- With declared parameters an endpoint is built in three steps: the parameters, the order of the
sources, and the names. -/
theorem ofFields_steps (hs : Declares entries specs) :
    ∃ build : Table Definition → List Value → Endpoint,
      ofFields (.ofCodes path) (.ofCodes method) entries defaults version =
        parseParameters (.ofCodes method) (.ofCodes path)
            ((field entries "error").orElse defaults.error)
            ((field entries "success").orElse defaults.success)
            ((field entries "validate").orElse defaults.validate) specs >>= fun parameters =>
          parseOrder (orderField entries defaults) >>= fun order =>
            Value.texts 0 parameters.keys >>= fun _ => .ok (build parameters order) := by
  obtain ⟨upper, hupper⟩ := exists_upperMethod method
  unfold ofFields
  simp only [hupper, ok_bind]
  rw [show (field entries "params").orElse (.map []) = .map specs from hs]
  exact ⟨_, rfl⟩

/-- What is true and no mapping cannot declare parameters. -/
theorem ofFields_of_not_declares (hs : ¬ ∃ specs, Declares entries specs) :
    ofFields (.ofCodes path) (.ofCodes method) entries defaults version =
      refuse (.parametersNotMapping (method ++ codes " " ++ path)) := by
  unfold ofFields
  simp only [place_ofCodes, ok_bind]
  split
  · rename_i specs h
    exact absurd ⟨specs, h⟩ hs
  · rfl

/-- An endpoint is built when its parameters are read, the order of its sources has parts, and its
parameters are named by texts. -/
theorem ofFields_eq_ok_iff (hs : Declares entries specs) :
    (∃ e, ofFields (.ofCodes path) (.ofCodes method) entries defaults version = .ok e) ↔
      AllRead specs ∧ (orderField entries defaults).parts?.isSome = true ∧
        ∀ name ∈ specs.keys, ∃ s, name.codes? = some s := by
  obtain ⟨build, hbuild⟩ := ofFields_steps path method defaults version hs
  rw [hbuild]
  constructor
  · rintro ⟨e, h⟩
    obtain ⟨parameters, hparameters, h⟩ := bind_eq_ok_iff.1 h
    obtain ⟨order, horder, h⟩ := bind_eq_ok_iff.1 h
    obtain ⟨names, hnames, -⟩ := bind_eq_ok_iff.1 h
    refine ⟨parseParameters_eq_ok_iff.1 ⟨_, hparameters⟩, parseOrder_eq_ok_iff.1 ⟨_, horder⟩, ?_⟩
    intro name hname
    rw [← keys_parseParameters hparameters] at hname
    exact Value.codes?_of_texts hnames hname
  · rintro ⟨hread, hparts, hnames⟩
    obtain ⟨parameters, hparameters⟩ := parseParameters_eq_ok_iff.2 hread
    obtain ⟨order, horder⟩ := parseOrder_eq_ok_iff.2 hparts
    rw [← keys_parseParameters hparameters] at hnames
    obtain ⟨names, htexts⟩ := Value.texts_eq_ok 0 hnames
    exact ⟨_, by rw [hparameters, ok_bind, horder, ok_bind, htexts, ok_bind]⟩

/-! ## Mistakes that cannot be reported -/

/-- Declarations of an endpoint for which building ends with a fault that is no mistake. -/
inductive Unreportable (entries : Table Value) (defaults : Defaults) : Prop
  /-- A field that is not known is given under a name that is no text. -/
  | fields {name : Value} : name ∈ unknownKeys fieldNames entries → name.codes? = none →
      Unreportable entries defaults
  /-- The first wrong parameter has a mistake that cannot be reported. -/
  | spec {before after own : Table Value} {name : Value} :
      unknownKeys fieldNames entries = [] → Declares entries (before ++ (name, .map own) :: after) →
      AllRead before → Definition.Unreportable own → Unreportable entries defaults
  /-- The first wrong parameter has a name with an integer of too many digits in it. -/
  | name {before after : Table Value} {name spec : Value} {cause : DeclarationError} :
      unknownKeys fieldNames entries = [] → Declares entries (before ++ (name, spec) :: after) →
      AllRead before → Definition.parse spec = .error (.declaration cause) → name.Oversized →
      Unreportable entries defaults
  /-- The order of the sources has no parts. -/
  | order {specs : Table Value} : unknownKeys fieldNames entries = [] → Declares entries specs →
      AllRead specs → (orderField entries defaults).parts? = none → Unreportable entries defaults
  /-- A parameter is named by something other than a text. -/
  | names {specs : Table Value} {name : Value} : unknownKeys fieldNames entries = [] →
      Declares entries specs → AllRead specs → name ∈ specs.keys → name.codes? = none →
      Unreportable entries defaults

theorem Declares.unique {specs specs' : Table Value} (h : Declares entries specs)
    (h' : Declares entries specs') : specs = specs' :=
  Value.map.inj (h.symm.trans h')

/-- With known fields, what cannot be reported is about parameters or their sources. -/
theorem Unreportable.declares (h : Unreportable entries defaults)
    (hknown : unknownKeys fieldNames entries = []) : ∃ specs, Declares entries specs := by
  cases h with
  | fields hname _ => simp [hknown] at hname
  | spec _ hs _ _ => exact ⟨_, hs⟩
  | name _ hs _ _ _ => exact ⟨_, hs⟩
  | order _ hs _ _ => exact ⟨_, hs⟩
  | names _ hs _ _ _ => exact ⟨_, hs⟩

/-- With fields that are not known nothing else is looked at. -/
theorem unreportable_iff_of_unknown (h : unknownKeys fieldNames entries ≠ []) :
    Unreportable entries defaults ↔
      ∃ name ∈ unknownKeys fieldNames entries, name.codes? = none := by
  constructor
  · intro hu
    cases hu with
    | fields hname hn => exact ⟨_, hname, hn⟩
    | spec hknown _ _ _ => exact absurd hknown h
    | name hknown _ _ _ _ => exact absurd hknown h
    | order hknown _ _ _ => exact absurd hknown h
    | names hknown _ _ _ _ => exact absurd hknown h
  · rintro ⟨name, hname, hn⟩
    exact .fields hname hn

theorem escapes_parseParameters_iff {error success validate : Value} :
    Escapes (parseParameters (.ofCodes method) (.ofCodes path) error success validate specs) ↔
      ∃ before name spec after, specs = before ++ (name, spec) :: after ∧ AllRead before ∧
        Escapes (parseParameter (.ofCodes method) (.ofCodes path) name spec) := by
  constructor
  · rintro ⟨fault, h, hn⟩
    obtain ⟨before, name, spec, after, hs, hb, hf⟩ := first_of_parseParameters h
    exact ⟨before, name, spec, after, hs, hb, fault, hf, hn⟩
  · rintro ⟨before, name, spec, after, rfl, hb, fault, hf, hn⟩
    exact ⟨fault, parseParameters_of_first hb hf, hn⟩

/-- The steps of building escape one after the other. -/
theorem escapes_ofFields_iff (hs : Declares entries specs) :
    Escapes (ofFields (.ofCodes path) (.ofCodes method) entries defaults version) ↔
      (∃ before name spec after, specs = before ++ (name, spec) :: after ∧ AllRead before ∧
        Escapes (parseParameter (.ofCodes method) (.ofCodes path) name spec)) ∨
      AllRead specs ∧ ((orderField entries defaults).parts? = none ∨
        (orderField entries defaults).parts?.isSome = true ∧
          ∃ name ∈ specs.keys, name.codes? = none) := by
  obtain ⟨build, hbuild⟩ := ofFields_steps path method defaults version hs
  rw [hbuild, escapes_bind_iff, escapes_parseParameters_iff]
  refine or_congr Iff.rfl ?_
  rw [← parseParameters_eq_ok_iff, ← parseOrder_eq_ok_iff]
  constructor
  · rintro ⟨parameters, hparameters, h⟩
    refine ⟨⟨_, hparameters⟩, ?_⟩
    rcases escapes_bind_iff.1 h with horder | ⟨order, horder, h⟩
    · exact Or.inl (escapes_parseOrder_iff.1 horder)
    · rcases escapes_bind_iff.1 h with hnames | ⟨names, -, h⟩
      · rw [Value.escapes_texts_iff, keys_parseParameters hparameters] at hnames
        exact Or.inr ⟨⟨order, horder⟩, hnames⟩
      · exact absurd h (not_escapes_ok _)
  · rintro ⟨⟨parameters, hparameters⟩, h⟩
    refine ⟨parameters, hparameters, escapes_bind_iff.2 ?_⟩
    rcases h with horder | ⟨⟨order, horder⟩, hnames⟩
    · exact Or.inl (escapes_parseOrder_iff.2 horder)
    · rw [← keys_parseParameters hparameters] at hnames
      exact Or.inr ⟨order, horder, escapes_bind_iff.2 (Or.inl (Value.escapes_texts_iff.2 hnames))⟩

theorem unreportable_of_parameter (hknown : unknownKeys fieldNames entries = [])
    {before after : Table Value} {name spec : Value}
    (hs : Declares entries (before ++ (name, spec) :: after)) (hb : AllRead before)
    (h : Escapes (parseParameter (.ofCodes method) (.ofCodes path) name spec)) :
    Unreportable entries defaults := by
  rcases escapes_parseParameter_iff.1 h with h | ⟨⟨cause, hc⟩, ho⟩
  · obtain ⟨own, rfl, hu⟩ := Definition.escapes_parse_iff.1 h
    exact .spec hknown hs hb hu
  · exact .name hknown hs hb hc ho

/-- With known fields building escapes exactly for the declarations that are listed. -/
theorem escapes_ofFields_iff_unreportable (hknown : unknownKeys fieldNames entries = []) :
    Escapes (ofFields (.ofCodes path) (.ofCodes method) entries defaults version) ↔
      Unreportable entries defaults := by
  by_cases hdeclares : ∃ specs, Declares entries specs
  · obtain ⟨specs, hs⟩ := hdeclares
    rw [escapes_ofFields_iff hs]
    constructor
    · rintro (⟨before, name, spec, after, rfl, hb, h⟩ | ⟨hread, horder | ⟨-, name, hname, hn⟩⟩)
      · exact unreportable_of_parameter hknown hs hb h
      · exact .order hknown hs hread horder
      · exact .names hknown hs hread hname hn
    · intro hu
      cases hu with
      | fields hname _ => simp [hknown] at hname
      | @spec before after own name _ hs' hb hu =>
          obtain rfl := hs.unique hs'
          have hspec := Definition.escapes_parse_iff.2 ⟨own, rfl, hu⟩
          exact Or.inl ⟨_, _, _, _, rfl, hb, escapes_parseParameter_iff.2 (Or.inl hspec)⟩
      | @name before after name spec cause _ hs' hb hc ho =>
          obtain rfl := hs.unique hs'
          exact Or.inl ⟨_, _, _, _, rfl, hb, escapes_parseParameter_iff.2 (Or.inr ⟨⟨_, hc⟩, ho⟩)⟩
      | order _ hs' hread horder =>
          obtain rfl := hs.unique hs'
          exact Or.inr ⟨hread, Or.inl horder⟩
      | @names specs' name _ hs' hread hname hn =>
          obtain rfl := hs.unique hs'
          -- an order without parts comes before the names, and is no mistake either
          cases horder : (orderField entries defaults).parts? with
          | none => exact Or.inr ⟨hread, Or.inl rfl⟩
          | some parts => exact Or.inr ⟨hread, Or.inr ⟨rfl, name, hname, hn⟩⟩
  · rw [ofFields_of_not_declares hdeclares]
    exact iff_of_false (not_escapes_refuse _) fun hu => hdeclares (hu.declares hknown)

end Fields

theorem ofDeclaration_of_unknown {path method : Codes} {entries : Table Value}
    {defaults : Defaults} {version : Value} (h : unknownKeys fieldNames entries ≠ []) :
    ofDeclaration (.ofCodes path) (.ofCodes method) (.map entries) defaults version =
      Value.sortedTexts (unknownKeys fieldNames entries) >>= fun names =>
        refuse (.unknownEndpointFields (method ++ codes " " ++ path) names) := by
  cases hunknown : unknownKeys fieldNames entries with
  | nil => exact absurd hunknown h
  | cons name names =>
      simp only [ofDeclaration, hunknown, place_ofCodes, ok_bind]

theorem escapes_ofDeclaration_map_iff {path method : Codes} {entries : Table Value}
    {defaults : Defaults} {version : Value} :
    Escapes (ofDeclaration (.ofCodes path) (.ofCodes method) (.map entries) defaults version) ↔
      Unreportable entries defaults := by
  by_cases hknown : unknownKeys fieldNames entries = []
  · rw [ofDeclaration_of_known hknown]
    exact escapes_ofFields_iff_unreportable hknown
  · rw [ofDeclaration_of_unknown hknown, escapes_refuse_iff, Value.escapes_sortedTexts_iff,
      unreportable_iff_of_unknown hknown]

/-- What declares no endpoint at all is a mistake. -/
theorem ofDeclaration_of_not_map {path method : Codes} {api : Value} {defaults : Defaults}
    {version : Value} (h : ∀ entries, api ≠ .map entries) :
    ofDeclaration (.ofCodes path) (.ofCodes method) api defaults version =
      refuse (.endpointNotMapping (method ++ codes " " ++ path) api.typeName) := by
  cases api with
  | map entries => exact absurd rfl (h entries)
  | _ => simp only [ofDeclaration, place_ofCodes, ok_bind]

/-- A value that is given as the declaration of a parameter, or as that of an endpoint, has a result
or names a mistake, except for mappings whose mistake cannot be reported. -/
theorem escapes_iff_unreportable (given : Value) (path method : Codes) (defaults : Defaults)
    (version : Value) :
    (Escapes (Definition.parse given) ↔
      ∃ entries, given = .map entries ∧ Definition.Unreportable entries) ∧
    (Escapes (ofDeclaration (.ofCodes path) (.ofCodes method) given defaults version) ↔
      ∃ entries, given = .map entries ∧ Unreportable entries defaults) := by
  refine ⟨Definition.escapes_parse_iff, ?_⟩
  by_cases hmap : ∃ entries, given = .map entries
  · obtain ⟨entries, rfl⟩ := hmap
    rw [escapes_ofDeclaration_map_iff]
    constructor
    · intro hu
      exact ⟨entries, rfl, hu⟩
    · rintro ⟨entries', he, hu⟩
      rwa [Value.map.inj he]
  · rw [ofDeclaration_of_not_map fun entries he => hmap ⟨entries, he⟩]
    refine iff_of_false (not_escapes_refuse _) ?_
    rintro ⟨entries, he, -⟩
    exact hmap ⟨entries, he⟩

/-- A field under a number cannot be listed among the fields that are not known. -/
theorem number_field_escapes :
    Definition.parse (.map [(.string "type", .string "string"), (.int 1, .int 2)]) =
        .error (.notText 0 "int") ∧
      Escapes (Definition.parse (.map [(.string "type", .string "string"), (.int 1, .int 2)])) := by
  have hparse : Definition.parse (.map [(.string "type", .string "string"), (.int 1, .int 2)]) =
      .error (.notText 0 "int") := rfl
  refine ⟨hparse, ?_⟩
  rw [hparse, escapes_error_iff]
  rintro ⟨cause, he⟩
  cases he

end Endpoint

end ParamGate
