import ParamGate.Proofs.Gate.Precedence
import ParamGate.Proofs.Gate.Ruling
import ParamGate.Proofs.Parameter.Compact

/-!
# Sending the text of a default

A compact declaration may hold the text of a default, which is coerced when the endpoint is built
and filled in where a request has no value. A request may also send that text itself, and then it is
coerced while the parameters are extracted. The main statement, `Gate.default_sent_as_text`,
compares the two: a request that sends the text is decided as the one that leaves the parameter out.

The two runs are taken side by side. `Table.Beside` relates what they have extracted so far, for
they differ only in whether the default is there yet; it is kept by every entry, and filling in the
defaults removes the difference.
-/

namespace ParamGate

open Text

/-! ## Two computations side by side -/

section SideBySide

variable {α β : Type} {R : α → α → Prop} {S : β → β → Prop}

/-- Two computations have the same fault, or values that are related. -/
inductive SideBySide (R : α → α → Prop) : Except Fault α → Except Fault α → Prop
  | fault (f : Fault) : SideBySide R (.error f) (.error f)
  | values {a b : α} : R a b → SideBySide R (.ok a) (.ok b)

theorem SideBySide.bind {x y : Except Fault α} {f g : α → Except Fault β} (h : SideBySide R x y)
    (hfg : ∀ a b, R a b → SideBySide S (f a) (g b)) : SideBySide S (x >>= f) (y >>= g) := by
  cases h with
  | fault f => exact .fault f
  | values hab => exact hfg _ _ hab

theorem SideBySide.outcomes {x y : Except Fault α} (h : SideBySide R x y) :
    (∃ f, x = .error f ∧ y = .error f) ∨ ∃ a b, x = .ok a ∧ y = .ok b ∧ R a b := by
  cases h with
  | fault f => exact Or.inl ⟨f, rfl, rfl⟩
  | values hab => exact Or.inr ⟨_, _, rfl, rfl, hab⟩

end SideBySide

/-! ## Tables that differ in one value -/

/-- The second table may have the value under the name, the first has none there, and otherwise both
give the same. -/
structure Table.Beside (name value : Value) (p p' : Table Value) : Prop where
  missing : p.get? name = none
  missing_or : p'.get? name = none ∨ p'.get? name = some value
  others : ∀ n, n.key ≠ name.key → p'.get? n = p.get? n

section Beside

variable {declared : Table Definition} {name value n raw : Value} {p p' : Table Value}

theorem Table.Beside.put_other (h : Table.Beside name value p p') (hn : n.key ≠ name.key)
    (w : Value) : Table.Beside name value (p.put n w) (p'.put n w) := by
  refine ⟨?_, ?_, ?_⟩
  · rw [Table.get?_put_of_ne p w hn]
    exact h.missing
  · rw [Table.get?_put_of_ne p' w hn]
    exact h.missing_or
  · intro m hm
    rw [Table.get?_put, Table.get?_put, h.others m hm]

theorem Table.Beside.put_value (h : Table.Beside name value p p') (hn : n.key = name.key) :
    Table.Beside name value p (p'.put n value) := by
  refine ⟨h.missing, ?_, ?_⟩
  · exact Or.inr (Table.get?_put_of_eq p' value hn)
  · intro m hm
    have hne : n.key ≠ m.key := fun he => hm (he.symm.trans hn)
    rw [Table.get?_put_of_ne p' value hne]
    exact h.others m hm

/-- An entry of another name is taken alike. -/
theorem Table.Beside.takeEntry (h : Table.Beside name value p p') (hn : n.key ≠ name.key) :
    SideBySide (Table.Beside name value) (takeEntry declared p n raw)
      (takeEntry declared p' n raw) := by
  have hcurrent : currentValue p' n = currentValue p n := by
    rw [currentValue, h.others n hn, currentValue]
  unfold ParamGate.takeEntry
  rw [hcurrent]
  split
  · exact .values h
  · rename_i d _
    split
    · cases coerceAs d.type d.array raw with
      | error fault => exact .fault fault
      | ok w => exact .values (h.put_other hn w)
    · exact .values h

/-- An entry that is coerced to the value itself may be taken on one side only. -/
theorem Table.Beside.takeEntry_value (h : Table.Beside name value p p') (hn : n.key = name.key)
    {d : Definition} (hd : declared.get? name = some d)
    (hc : coerceAs d.type d.array raw = .ok value) :
    ∃ q, ParamGate.takeEntry declared p' n raw = .ok q ∧ Table.Beside name value p q := by
  unfold ParamGate.takeEntry
  rw [Table.get?_congr declared hn, hd]
  simp only
  split
  · rw [hc]
    exact ⟨_, rfl, h.put_value hn⟩
  · exact ⟨p', rfl, h⟩

theorem takeEntries_append (xs ys : List (Value × Value)) :
    takeEntries declared p (xs ++ ys) =
      takeEntries declared p xs >>= fun q => takeEntries declared q ys := by
  induction xs generalizing p with
  | nil => rfl
  | cons entry xs ih =>
      rw [List.cons_append, takeEntries, takeEntries]
      cases takeEntry declared p entry.1 entry.2 with
      | error fault => rfl
      | ok next => exact ih

theorem Table.Beside.takeEntries (h : Table.Beside name value p p')
    {entries : List (Value × Value)} (hne : ∀ entry ∈ entries, entry.1.key ≠ name.key) :
    SideBySide (Table.Beside name value) (takeEntries declared p entries)
      (takeEntries declared p' entries) := by
  induction entries generalizing p p' with
  | nil => exact .values h
  | cons entry entries ih =>
      rw [ParamGate.takeEntries, ParamGate.takeEntries]
      refine (h.takeEntry (hne entry List.mem_cons_self)).bind ?_
      intro q q' hq
      exact ih hq fun f hf => hne f (List.mem_cons_of_mem entry hf)

/-- The entries of a source are taken alike when one more entry stands among them on one side, if
it is coerced to the value itself. -/
theorem Table.Beside.takeEntries_value (h : Table.Beside name value p p') (hn : n.key = name.key)
    {before after : List (Value × Value)}
    (hne : ∀ entry ∈ before ++ after, entry.1.key ≠ name.key)
    {d : Definition} (hd : declared.get? name = some d)
    (hc : coerceAs d.type d.array raw = .ok value) :
    SideBySide (Table.Beside name value) (ParamGate.takeEntries declared p (before ++ after))
      (ParamGate.takeEntries declared p' (before ++ (n, raw) :: after)) := by
  rw [takeEntries_append, takeEntries_append]
  refine (h.takeEntries fun f hf => hne f (List.mem_append_left after hf)).bind ?_
  intro q q' hq
  obtain ⟨next, hnext, hbeside⟩ := hq.takeEntry_value hn hd hc
  rw [ParamGate.takeEntries, hnext, ok_bind]
  exact hbeside.takeEntries fun f hf => hne f (List.mem_append_right before hf)

theorem takeSource_map (entries : List (Value × Value)) :
    takeSource declared p (.map entries) = takeEntries declared p entries := by
  cases entries with
  | nil => rfl
  | cons entry entries => rfl

theorem takeSource_of_falsy {source : Value} (h : source.truthy = false) :
    takeSource declared p source = .ok p := by
  unfold takeSource
  rw [if_neg (by simp [h])]

end Beside

/-! ## Requests that send one value more -/

/-- The second request is the first with one more entry in a source. In a source that is missing or
not true the entry stands alone. -/
structure Inbound.Sends (r : Inbound) (source name raw : Value) (r' : Inbound) : Prop where
  path : r'.path = r.path
  method : r'.method = r.method
  version : r'.version = r.version
  others : ∀ s, s.key ≠ source.key → r'.sources.get? s = r.sources.get? s
  entry : ∃ n before after, n.key = name.key ∧
    r'.sources.get? source = some (.map (before ++ (n, raw) :: after)) ∧
    (r.sources.get? source = some (.map (before ++ after)) ∨
      before ++ after = [] ∧ ((r.sources.get? source).getD .null).truthy = false)

section Sends

variable {declared : Table Definition} {r r' : Inbound} {source name raw value : Value}
  {d : Definition} {p p' : Table Value}

/-- The entries that a source gives are of other names if it does not give this one. -/
theorem Inbound.other_names {s : Value} {entries : List (Value × Value)}
    (hout : ∀ raw, ¬ r.Brings s name raw) (hs : r.sources.get? s = some (.map entries)) :
    ∀ entry ∈ entries, entry.1.key ≠ name.key := by
  intro entry he hk
  exact hout entry.2 ⟨entries, entry.1, hs, he, hk⟩

theorem Table.Beside.takeSource {s : Value} (h : Table.Beside name value p p')
    (hout : ∀ raw, ¬ r.Brings s name raw) :
    SideBySide (Table.Beside name value)
      (takeSource declared p ((r.sources.get? s).getD .null))
      (takeSource declared p' ((r.sources.get? s).getD .null)) := by
  cases hs : r.sources.get? s with
  | none => exact .values h
  | some v =>
      rw [Option.getD_some]
      unfold ParamGate.takeSource
      split
      · split
        · exact h.takeEntries (Inbound.other_names hout hs)
        · exact .fault _
      · exact .values h

/-- A source and the same source with the entry more are taken alike. -/
theorem Table.Beside.takeSource_value (h : Table.Beside name value p p')
    (hsends : r.Sends source name raw r') (hout : ∀ raw, ¬ r.Brings source name raw)
    (hd : declared.get? name = some d) (hc : coerceAs d.type d.array raw = .ok value) :
    SideBySide (Table.Beside name value)
      (ParamGate.takeSource declared p ((r.sources.get? source).getD .null))
      (ParamGate.takeSource declared p' ((r'.sources.get? source).getD .null)) := by
  obtain ⟨n, before, after, hn, hs', hs⟩ := hsends.entry
  rw [hs', Option.getD_some, takeSource_map]
  rcases hs with hs | ⟨hnil, hfalse⟩
  · rw [hs, Option.getD_some, takeSource_map]
    exact h.takeEntries_value hn (Inbound.other_names hout hs) hd hc
  -- what is not true brings as much as a source without entries
  · have hnone : ParamGate.takeSource declared p ((r.sources.get? source).getD .null) =
        ParamGate.takeEntries declared p (before ++ after) := by
      rw [hnil, takeSource_of_falsy hfalse, ParamGate.takeEntries]
    rw [hnone]
    exact h.takeEntries_value hn (by simp [hnil]) hd hc

/-- A request that leaves the name out and the one that sends it are searched alike. -/
theorem Table.Beside.takeSources (h : Table.Beside name value p p')
    (hsends : r.Sends source name raw r') (hd : declared.get? name = some d)
    (hc : coerceAs d.type d.array raw = .ok value) {order : List Value}
    (hout : ∀ s ∈ order, ∀ raw, ¬ r.Brings s name raw) :
    SideBySide (Table.Beside name value) (takeSources declared r p order)
      (takeSources declared r' p' order) := by
  induction order generalizing p p' with
  | nil => exact .values h
  | cons s order ih =>
      have hrest : ∀ q q', Table.Beside name value q q' →
          SideBySide (Table.Beside name value) (ParamGate.takeSources declared r q order)
            (ParamGate.takeSources declared r' q' order) :=
        fun q q' hq => ih hq fun t ht => hout t (List.mem_cons_of_mem s ht)
      have hs := hout s List.mem_cons_self
      rw [ParamGate.takeSources, ParamGate.takeSources, Inbound.source, Inbound.source]
      cases s.unhashable? with
      | some type => exact .fault _
      | none =>
          simp only [ok_bind]
          refine SideBySide.bind ?_ hrest
          by_cases hk : s.key = source.key
          · rw [Table.get?_congr r.sources hk, Table.get?_congr r'.sources hk]
            refine h.takeSource_value hsends ?_ hd hc
            intro raw' hraw
            obtain ⟨entries, n, hget, hm, hn⟩ := hraw
            exact hs raw' ⟨entries, n, (Table.get?_congr r.sources hk).trans hget, hm, hn⟩
          · rw [hsends.others s hk]
            exact h.takeSource hs

/-- The parameters of a request that sends the value are those of the one that leaves it out, but
perhaps for this value. -/
theorem beside_extract {e : Endpoint} (hsends : r.Sends source name raw r')
    (hd : e.parameters.get? name = some d) (hc : coerceAs d.type d.array raw = .ok value)
    (hout : ∀ s ∈ e.order, ∀ raw, ¬ r.Brings s name raw) :
    SideBySide (Table.Beside name value) (extract e r) (extract e r') := by
  have hstart : Table.Beside name value [] [] := ⟨rfl, Or.inl rfl, fun _ _ => rfl⟩
  exact hstart.takeSources hsends hd hc hout

end Sends

/-! ## Parameters with a default -/

/-- The definition takes the raw value for its own default, and has nothing against a missing
value or against its default. -/
structure Definition.Defaults (d : Definition) (raw : Value) : Prop where
  coerced : coerceAs d.type d.array raw = .ok d.default
  missing : inspect d .null = .ok none
  present : inspect d d.default = .ok none

section Defaults

variable {d : Definition} {name raw : Value} {declared : Table Definition} {p p' : Table Value}

/-- Nothing is found about values of a definition without bounds that is not required. -/
theorem inspect_unbounded {k : Kind} {v : Value} (hd : d.Parsed) (hk : d.type = .kind k)
    (hmin : d.min = .null) (hmax : d.max = .null) (hr : d.required = .bool false)
    (hv : Suits k v) : inspect d v = .ok none := by
  apply inspect_eq_ok_none
  · rw [inspect_fault_iff hd hk hv]
    rintro ⟨entry, -, -, hbound, -⟩
    exact hbound ⟨hmin, hmax⟩
  · cases hf : expectedFinding? d v with
    | none => rfl
    | some f =>
        unfold expectedFinding? at hf
        rcases Option.or_eq_some_iff.1 hf with hf | ⟨-, hf⟩
        · obtain ⟨entry, -, he⟩ := List.exists_of_findSome?_eq_some hf
          rcases boundFinding?_eq_some he with ⟨-, hne⟩ | ⟨-, hne⟩
          · exact absurd hmin hne
          · exact absurd hmax hne
        · simp [hr, Value.truthy] at hf

/-- The definition of a compact declaration takes the text of its default for the default. -/
theorem Definition.defaults_ofCompact {codes text : Codes} {form : CompactForm}
    (h : Definition.ofCompact codes = .ok d) (hform : CompactForm.read? codes = some form)
    (htext : form.default = some text) (error success validate : Value) :
    (Endpoint.withHooks d error success validate).Defaults (.ofCodes text) := by
  have hparsed := (Definition.parsed_ofCompact h).withHooks error success validate
  obtain ⟨form', k, default, hform', -, hdefault, rfl⟩ := Definition.ofCompact_eq_ok h
  obtain rfl := Option.some.inj (hform.symm.trans hform')
  rw [htext, Option.elim_some] at hdefault
  have hrequired : (Endpoint.withHooks (Definition.ofParts k form default) error success
      validate).required = .bool false := by
    show Value.bool form.default.isNone = .bool false
    rw [htext]
    rfl
  refine ⟨?_, ?_, ?_⟩
  · exact (coerceAs_kind k (.bool form.array) _).trans hdefault
  · exact inspect_unbounded hparsed rfl rfl rfl hrequired (suits_null k)
  · exact inspect_unbounded hparsed rfl rfl rfl hrequired
      (suits_coerced (Value.ofCodes_isText text).isJson hdefault)

/-- With or without its default the parameter is checked alike: without a validate hook nothing is
found about either, and what is no hook cannot be asked about either. -/
theorem Definition.Defaults.checkValue_eq (h : d.Defaults raw)
    (hv : d.validate.isCallable = false) (hooks : Hooks) (n : Value) {v : Value}
    (hvalue : v = .null ∨ v = d.default) :
    checkValue hooks n d v = checkValue hooks n d .null := by
  have hinspect : inspect d v = inspect d .null := by
    rcases hvalue with rfl | rfl
    · rfl
    · rw [h.present, h.missing]
  rw [checkValue, checkValue, hinspect]
  cases hcase : d.validate with
  | hook k => simp [hcase, Value.isCallable] at hv
  | _ => rfl

theorem check_congr {hooks : Hooks} {p p' : Table Value}
    (h : ∀ entry ∈ declared, checkValue hooks entry.1 entry.2 (valueOf p' entry.1) =
      checkValue hooks entry.1 entry.2 (valueOf p entry.1)) :
    check hooks p' declared = check hooks p declared := by
  induction declared with
  | nil => rfl
  | cons entry declared ih =>
      have hrest := ih fun f hf => h f (List.mem_cons_of_mem entry hf)
      rw [check_cons, check_cons, h entry List.mem_cons_self, hrest]

/-- Whether the default is there yet does not matter for the check. -/
theorem Table.Beside.check_eq (h : Table.Beside name d.default p p')
    (hdefault : d.Defaults raw) (hv : d.validate.isCallable = false)
    (hdeclared : Table.Distinct declared) (hd : declared.get? name = some d) (hooks : Hooks) :
    check hooks p' declared = check hooks p declared := by
  apply check_congr
  intro entry he
  by_cases hk : entry.1.key = name.key
  · have hentry : entry.2 = d := by
      have hget := Table.get?_of_mem hdeclared he
      rw [Table.get?_congr declared hk, hd] at hget
      exact (Option.some.inj hget).symm
    have hmissing : valueOf p entry.1 = .null := by
      rw [valueOf, Table.get?_congr p hk, h.missing, Option.getD_none]
    have hvalue : valueOf p' entry.1 = .null ∨ valueOf p' entry.1 = d.default := by
      rw [valueOf, Table.get?_congr p' hk]
      rcases h.missing_or with hp | hp
      · exact Or.inl (by rw [hp, Option.getD_none])
      · exact Or.inr (by rw [hp, Option.getD_some])
    rw [hentry, hmissing]
    exact hdefault.checkValue_eq hv hooks entry.1 hvalue
  · rw [valueOf, h.others entry.1 hk, valueOf]

/-- Both tables have every name once, and the same value under each name. -/
structure Table.Same (m m' : Table Value) : Prop where
  distinct : m.Distinct
  distinct' : m'.Distinct
  get?_eq : ∀ n, m'.get? n = m.get? n

theorem get?_eq_of_valueOf {m m' : Table Value} {n : Value}
    (hsome : (m'.get? n).isSome ↔ (m.get? n).isSome) (hvalue : valueOf m' n = valueOf m n) :
    m'.get? n = m.get? n := by
  rw [valueOf, valueOf] at hvalue
  cases hm : m.get? n with
  | none =>
      rw [hm, Option.isSome_none] at hsome
      simpa using hsome
  | some v =>
      obtain ⟨w, hw⟩ := Option.isSome_iff_exists.1 (hsome.2 (by simp [hm]))
      rw [hw, hm, Option.getD_some, Option.getD_some] at hvalue
      rw [hw, hvalue]

/-- A declared name keeps a value that is not null and otherwise takes its default. -/
theorem valueOf_fillDefaults_of_get? (hdeclared : Table.Distinct declared) {n : Value}
    {c : Definition} (hc : declared.get? n = some c) (m : Table Value) :
    valueOf (fillDefaults declared m) n =
      if (valueOf m n).isNull then c.default else valueOf m n := by
  obtain ⟨n', hk, hm⟩ := Table.mem_of_get? hc
  have hfilled : valueOf (fillDefaults declared m) n' =
      if (valueOf m n').isNull then c.default else valueOf m n' :=
    valueOf_fillDefaults hdeclared hm
  rwa [valueOf, valueOf, Table.get?_congr _ hk, Table.get?_congr m hk] at hfilled

theorem valueOf_fillDefaults_of_none {n : Value} (hn : declared.get? n = none)
    (m : Table Value) : valueOf (fillDefaults declared m) n = valueOf m n := by
  apply valueOf_fillDefaults_of_ne
  intro entry he hk
  have hsome : (declared.get? n).isSome := Table.get?_isSome_iff.2 ⟨entry, he, hk⟩
  simp [hn] at hsome

/-- Filling in the defaults removes the difference. -/
theorem Table.Beside.fillDefaults (h : Table.Beside name d.default p p') (hp : p.Distinct)
    (hp' : p'.Distinct) (hdeclared : Table.Distinct declared)
    (hd : declared.get? name = some d) :
    Table.Same (fillDefaults declared p) (fillDefaults declared p') := by
  refine ⟨distinct_fillDefaults hp, distinct_fillDefaults hp', ?_⟩
  intro n
  by_cases hk : n.key = name.key
  · have hdn : declared.get? n = some d := (Table.get?_congr declared hk).trans hd
    apply get?_eq_of_valueOf
    · simp [get?_isSome_fillDefaults, hdn]
    · have hmissing : valueOf p n = .null := by
        rw [valueOf, Table.get?_congr p hk, h.missing, Option.getD_none]
      rw [valueOf_fillDefaults_of_get? hdeclared hdn, valueOf_fillDefaults_of_get? hdeclared hdn,
        hmissing, valueOf, Table.get?_congr p' hk]
      -- the default is there already, or it is filled in now
      rcases h.missing_or with hnone | hsome
      · rw [hnone, Option.getD_none]
      · rw [hsome, Option.getD_some]
        cases d.default with
        | null => rfl
        | _ => rfl
  · have hother := h.others n hk
    have hvalue : valueOf p' n = valueOf p n := by rw [valueOf, hother, valueOf]
    apply get?_eq_of_valueOf
    · rw [get?_isSome_fillDefaults, get?_isSome_fillDefaults, hother]
    · cases hdn : declared.get? n with
      | none =>
          rw [valueOf_fillDefaults_of_none hdn, valueOf_fillDefaults_of_none hdn, hvalue]
      | some c =>
          rw [valueOf_fillDefaults_of_get? hdeclared hdn,
            valueOf_fillDefaults_of_get? hdeclared hdn, hvalue]

end Defaults

/-- The endpoint was built from a declaration in which a compact text declares the parameter and
has this text for its default. -/
structure Endpoint.DeclaresDefault (path method version : Value) (entries : Table Value)
    (defaults : ParamGate.Defaults) (name : Value) (text : Codes) (e : Endpoint) : Prop where
  built : Endpoint.ofDeclaration path method (.map entries) defaults version = .ok e
  distinct : Endpoint.DistinctDeclaration (.map entries)
  declared : ∃ (specs : Table Value) (codes : Codes) (form : CompactForm),
    field entries "params" = .map specs ∧ specs.get? name = some (.ofCodes codes) ∧
      CompactForm.read? codes = some form ∧ form.default = some text

theorem Endpoint.DeclaresDefault.parameter {path method version : Value} {entries : Table Value}
    {defaults : ParamGate.Defaults} {name : Value} {text : Codes} {e : Endpoint}
    (h : Endpoint.DeclaresDefault path method version entries defaults name text e) :
    Table.Distinct e.parameters ∧ ∃ d, e.parameters.get? name = some d ∧
      d.validate = e.validate ∧ d.Defaults (.ofCodes text) := by
  obtain ⟨specs, codes, form, hspecs, hspec, hform, htext⟩ := h.declared
  obtain ⟨entries', specs', hentries, hb⟩ := Endpoint.built_of_ofDeclaration h.built
  obtain rfl := Value.map.inj hentries
  -- the mapping of the parameters is not empty, so it is the one that was parsed
  have hsame : specs' = specs := by
    have htrue : (Value.map specs).truthy = true := by
      cases specs with
      | nil => simp [Table.get?] at hspec
      | cons entry specs => rfl
    have heq := hb.specs_eq
    rw [hspecs, Value.orElse_of_truthy htrue] at heq
    exact (Value.map.inj heq).symm
  subst hsame
  have hdistinct : Table.Distinct specs' := h.distinct entries specs' rfl hspecs
  refine ⟨hb.distinct hdistinct, ?_⟩
  have hsome : (e.parameters.get? name).isSome :=
    (Table.get?_isSome_congr hb.keys_eq name).2 (by simp [hspec])
  obtain ⟨d, hd⟩ := Option.isSome_iff_exists.1 hsome
  obtain ⟨n, hk, hm⟩ := Table.mem_of_get? hd
  obtain ⟨spec, own, hmem, hown, rfl⟩ := hb.mem_parameters hm
  -- the declaration of the parameter found under the name is the compact text
  have hget := Table.get?_of_mem hdistinct hmem
  rw [Table.get?_congr specs' hk, hspec] at hget
  rw [← Option.some.inj hget, Definition.parse_ofCodes] at hown
  refine ⟨_, hd, ?_, Definition.defaults_ofCompact hown hform htext _ _ _⟩
  obtain ⟨form', k, default, -, -, -, rfl⟩ := Definition.ofCompact_eq_ok hown
  rfl

/-! ## The two decisions -/

/-- Two states of an exchange that can only be told apart by the order of the entries in a map that
is attached. -/
structure Exchange.Alike (x x' : Exchange) : Prop where
  reply : x'.reply = x.reply
  continued : x'.continued = x.continued
  events : x'.events = x.events
  attributes : x'.attributes = x.attributes ∨
    ∃ (a : Attributes) (name : Codes) (m m' : Table Value), Table.Same m m' ∧
      x.attributes = a.set name (.map m) ∧ x'.attributes = a.set name (.map m')

theorem Exchange.Alike.refl (x : Exchange) : x.Alike x := ⟨rfl, rfl, rfl, Or.inl rfl⟩

namespace Gate

section Decide

variable {e : Endpoint} {hooks : Hooks} {p p' : Table Value}

/-- The two runs have the same outcome, and leave states that are alike. -/
def DecidedAlike (run run' : Run Exchange Unit) (x : Exchange) : Prop :=
  (run'.exec x).1 = (run.exec x).1 ∧ ((run.exec x).2).Alike (run'.exec x).2

theorem DecidedAlike.of_eq {run run' : Run Exchange Unit} (h : run' = run) (x : Exchange) :
    DecidedAlike run run' x := by
  subst h
  exact ⟨rfl, .refl _⟩

/-- Where no success hook can tell them apart, accepting with the same parameters in another order
comes to the same. -/
theorem accept_alike (hs : e.success.isCallable = false)
    (hsame : Table.Same (fillDefaults e.parameters p) (fillDefaults e.parameters p'))
    (y : Exchange) : DecidedAlike (accept hooks e p) (accept hooks e p') y := by
  unfold DecidedAlike
  rw [accept_eq, accept_eq]
  cases hslot : e.slot.codes? with
  | none =>
      have hattach : ∀ m, (attach e.slot m).exec y =
          (.error (.attributeName e.slot.typeName), y) := by
        intro m
        rw [attach, hslot]
        rfl
      rw [Run.exec_bind_of_error (hattach _), Run.exec_bind_of_error (hattach _)]
      exact ⟨rfl, .refl y⟩
  | some name =>
      rw [Run.exec_bind_of_ok (attach_exec hslot _), Run.exec_bind_of_ok (attach_exec hslot _),
        acceptedRuling]
      split
      -- what is no hook cannot be told, and the parameters stay attached
      · cases hcase : e.success with
        | hook h => simp [hcase, Value.isCallable] at hs
        | _ => exact ⟨rfl, rfl, rfl, rfl, Or.inr ⟨y.attributes, name, _, _, hsame, rfl, rfl⟩⟩
      · exact ⟨rfl, rfl, rfl, rfl, Or.inr ⟨y.attributes, name, _, _, hsame, rfl, rfl⟩⟩

theorem verify_exec_of_finds {g : Gate} {r : Inbound} {x : Exchange} (h : g.Finds r e) :
    (g.verify hooks r).exec x = (verifyAt hooks e r).exec x := by
  rw [verify, Run.exec_bind_of_ok (by rw [Run.exec_lift, h])]

/-- Parameters that differ only in whether a default is there yet are decided alike. -/
theorem verifyAt_alike {d : Definition} {name raw : Value} {r r' : Inbound} (x : Exchange)
    (hx : extract e r = .ok p) (hx' : extract e r' = .ok p')
    (h : Table.Beside name d.default p p') (hdefault : d.Defaults raw)
    (hv : d.validate.isCallable = false) (hs : e.success.isCallable = false)
    (hdeclared : Table.Distinct e.parameters) (hd : e.parameters.get? name = some d) :
    DecidedAlike (verifyAt hooks e r) (verifyAt hooks e r') x := by
  have hcheck := h.check_eq hdefault hv hdeclared hd hooks
  have hsame := h.fillDefaults (extract_distinct hx) (extract_distinct hx') hdeclared hd
  unfold DecidedAlike
  rw [verifyAt, verifyAt, hx, hx']
  simp only [hcheck]
  -- the same problems are found in the same state, and only accepting looks at the parameters again
  cases hc : (check hooks p e.parameters).onEvents.exec x with
  | mk outcome y =>
      cases outcome with
      | error fault =>
          rw [Run.exec_bind_of_error hc, Run.exec_bind_of_error hc]
          exact ⟨rfl, .refl y⟩
      | ok problems =>
          rw [Run.exec_bind_of_ok hc, Run.exec_bind_of_ok hc]
          cases problems with
          | nil => exact accept_alike hs hsame y
          | cons problem problems => exact ⟨rfl, .refl _⟩

end Decide

/-! ## The main statement -/

/-- A request that sends the text of a default in one source is decided as the request that leaves
the parameter out: with the same outcome, reply, continuation and events, and with the same values
attached under the same names. -/
theorem default_sent_as_text {path method version : Value} {entries : Table Value}
    {defaults : ParamGate.Defaults} {name source : Value} {text : Codes} {e : Endpoint}
    {g : Gate} {hooks : Hooks} {r r' : Inbound}
    (hdeclares : Endpoint.DeclaresDefault path method version entries defaults name text e)
    (hvalidate : e.validate.isCallable = false) (hsuccess : e.success.isCallable = false)
    (hfinds : g.Finds r e) (hout : ∀ s ∈ e.order, ∀ raw, ¬ r.Brings s name raw)
    (hsends : r.Sends source name (.ofCodes text) r') (x : Exchange) :
    ((g.verify hooks r').exec x).1 = ((g.verify hooks r).exec x).1 ∧
      (((g.verify hooks r).exec x).2).Alike ((g.verify hooks r').exec x).2 := by
  obtain ⟨hdeclared, d, hd, hvalidate_eq, hdefault⟩ := hdeclares.parameter
  have hfinds' : g.Finds r' e := by
    unfold Finds
    rw [hsends.path, hsends.method, hsends.version]
    exact hfinds
  rw [verify_exec_of_finds hfinds, verify_exec_of_finds hfinds']
  rcases (beside_extract hsends hd hdefault.coerced hout).outcomes with
    ⟨fault, hx, hx'⟩ | ⟨p, p', hx, hx', hbeside⟩
  -- what keeps one request from being read keeps the other from it
  · exact DecidedAlike.of_eq (by rw [verifyAt, verifyAt, hx, hx']) x
  · exact verifyAt_alike x hx hx' hbeside hdefault (by rw [hvalidate_eq, hvalidate]) hsuccess
      hdeclared hd

/-! ### A list of which one item cannot be read -/

/-- The declaration of that endpoint's parameter as a compact text. -/
def countsFields : Table Value :=
  [(.string "params", .map [(.string "counts", .string "integer[](1,x)")])]

/-- Defaults without hooks that search the query twice. -/
def countsDefaults : ParamGate.Defaults := .hookless ["query", "body", "query"] standardSlot false

/-- The gate with that endpoint. -/
def countsGate : Gate :=
  ⟨countsDefaults,
    Registry.empty.put ⟨.string "/items", .string "GET", .null⟩ countsEndpoint⟩

/-- A request that leaves the parameter out. -/
def silentRequest : Inbound :=
  ⟨.string "/items", .string "GET", .null, [(.string "query", .map [(.string "other", .int 7)])]⟩

/-- The request that sends the text of the default in its body. -/
def spokenRequest : Inbound :=
  ⟨.string "/items", .string "GET", .null,
    [(.string "query", .map [(.string "other", .int 7)]),
      (.string "body", .map [(.string "counts", .string "1,x")])]⟩

theorem counts_parsed :
    Definition.ofCompact (codes "integer[](1,x)") = .ok countsDefinition := by
  have hform : CompactForm.read? (codes "integer[](1,x)") =
      some ⟨codes "integer", true, some (codes "1,x")⟩ := by decide +kernel
  have htoken : Kind.ofToken? "integer" = some .integer :=
    congrArg Kind.ofName? (Text.lower_trim_ascii rfl)
  have hdefault : coerce .integer true (.string "1,x") = .ok (.list [.int 1, .null]) := rfl
  rw [Definition.ofCompact_of_read? hform, Kind.parseToken_of_ofToken? htoken, ok_bind]
  show coerce .integer true (.string "1,x") >>= _ = _
  rw [hdefault]
  rfl

theorem counts_built :
    Endpoint.ofDeclaration (.string "/items") (.string "GET") (.map countsFields) countsDefaults
      .null = .ok countsEndpoint := by
  have hparameters : Endpoint.parseParameters (.string "GET") (.string "/items")
      ((field countsFields "error").orElse countsDefaults.error)
      ((field countsFields "success").orElse countsDefaults.success)
      ((field countsFields "validate").orElse countsDefaults.validate)
      [(.string "counts", .string "integer[](1,x)")] = .ok countsEndpoint.parameters := by
    have hparse : Definition.parse (.string "integer[](1,x)") = .ok countsDefinition :=
      counts_parsed
    rw [Endpoint.parseParameters, Endpoint.parseParameter, hparse]
    rfl
  have hspecs : (field countsFields "params").orElse (.map []) =
      .map [(.string "counts", .string "integer[](1,x)")] := rfl
  have horder : Endpoint.parseOrder ((field countsFields "param_order").orElse
      countsDefaults.order) = .ok countsEndpoint.order := rfl
  have hnames : Value.texts 0 (Table.keys countsEndpoint.parameters) = .ok [codes "counts"] := rfl
  rw [Endpoint.ofDeclaration_of_known rfl]
  exact Endpoint.ofFields_of_parts hspecs hparameters upperMethod_get horder hnames

theorem counts_declares :
    Endpoint.DeclaresDefault (.string "/items") (.string "GET") .null countsFields countsDefaults
      (.string "counts") (codes "1,x") countsEndpoint := by
  refine ⟨counts_built, ?_, ?_⟩
  · intro entries specs he hs
    obtain rfl := Value.map.inj he
    obtain rfl : [(.string "counts", .string "integer[](1,x)")] = specs := Value.map.inj hs
    exact Table.distinct_cons_iff.2 ⟨by simp, Table.distinct_nil⟩
  · exact ⟨_, codes "integer[](1,x)", ⟨codes "integer", true, some (codes "1,x")⟩, rfl, rfl,
      by decide +kernel, rfl⟩

theorem counts_finds : countsGate.Finds silentRequest countsEndpoint := by
  show (EndpointKey.ofValues (.string "/items") (.string "GET") .null >>= _) = _
  rw [ofValues_items]
  rfl

theorem silent_sends : silentRequest.Sends (.string "body") (.string "counts")
    (.ofCodes (codes "1,x")) spokenRequest := by
  refine ⟨rfl, rfl, rfl, ?_, ?_⟩
  · intro s hs
    have hbody : ¬ (Value.string "body").key = s.key := fun h => hs h.symm
    simp only [silentRequest, spokenRequest, Table.get?, if_neg hbody]
  · exact ⟨.string "counts", [], [], rfl, rfl, Or.inr ⟨rfl, rfl⟩⟩

theorem silent_brings (s raw : Value) : ¬ silentRequest.Brings s (.string "counts") raw := by
  rintro ⟨entries, n, hs, hm, hn⟩
  obtain ⟨s', -, hmem⟩ := Table.mem_of_get? hs
  obtain rfl := Value.map.inj (Prod.mk.inj (List.mem_singleton.1 hmem)).2
  obtain rfl := (Prod.mk.inj (List.mem_singleton.1 hm)).1
  simp [Value.key] at hn

/-- The text of a list is decided as the list, with the item that cannot be read. -/
theorem default_sent_as_text_counts :
    ((countsGate.verify (.ofList []) spokenRequest).exec .fresh).1 =
        ((countsGate.verify (.ofList []) silentRequest).exec .fresh).1 ∧
      (((countsGate.verify (.ofList []) silentRequest).exec .fresh).2).Alike
        ((countsGate.verify (.ofList []) spokenRequest).exec .fresh).2 :=
  default_sent_as_text counts_declares rfl rfl counts_finds (fun s _ raw => silent_brings s raw)
    silent_sends .fresh

end Gate

end ParamGate
