import ParamGate.Gate.Extraction
import ParamGate.Parameter.Check
import ParamGate.Proofs.Endpoint.Build

/-!
# What extraction brings

Extraction goes through the sources and their entries and stores what it coerces. One induction over
this double loop, `extract_induction`, carries every property of the parameters that a stored value
keeps: no name occurs twice (`extract_distinct`), and every value was coerced for a declared
parameter from a raw value that the request gives (`extract_origin`). A fault of extraction comes
from the name of a source, from a source that is no map, or from coercion (`extract_eq_error`).
-/

namespace ParamGate

/-- The raw value is given under the name by some source of the request. -/
def Inbound.Gives (r : Inbound) (name raw : Value) : Prop :=
  ∃ source entries n, (source, .map entries) ∈ r.sources ∧ (n, raw) ∈ entries ∧ n.key = name.key

theorem source_eq_ok {r : Inbound} {name v : Value} (h : r.source name = .ok v) :
    v = .null ∨ ∃ n, (n, v) ∈ r.sources := by
  unfold Inbound.source at h
  split at h
  · simp at h
  · obtain rfl := Except.ok.inj h
    cases hs : r.sources.get? name with
    | none => exact Or.inl rfl
    | some w =>
        obtain ⟨n, -, hm⟩ := Table.mem_of_get? hs
        exact Or.inr ⟨n, hm⟩

theorem source_eq_error {r : Inbound} {name : Value} {fault : Fault}
    (h : r.source name = .error fault) :
    ∃ type, name.unhashable? = some type ∧ fault = .unhashable type := by
  unfold Inbound.source at h
  split at h
  · rename_i type htype
    exact ⟨type, htype, (Except.error.inj h).symm⟩
  · simp at h

/-! ## Induction over the stored values -/

section Induction

variable {declared : Table Definition} {r : Inbound} {P : Table Value → Prop}

/-- Properties that storing the coercion of a given value under a declared name keeps. -/
def KeptByTaking (declared : Table Definition) (r : Inbound) (P : Table Value → Prop) : Prop :=
  ∀ params name d raw v, P params → declared.get? name = some d →
    (valueOf params name).isNull → r.Gives name raw → coerceAs d.type d.array raw = .ok v →
    P (params.put name v)

theorem takeEntry_induction (step : KeptByTaking declared r P) {params out : Table Value}
    {name raw : Value} (hr : r.Gives name raw) (hp : P params)
    (h : takeEntry declared params name raw = .ok out) : P out := by
  -- undeclared names and names that have a value are passed over, and the property stays
  unfold takeEntry at h
  split at h
  · rwa [← Except.ok.inj h]
  · rename_i d hd
    split at h
    · rename_i hnull
      obtain ⟨v, hv, rfl⟩ := map_eq_ok_iff.1 h
      exact step params name d raw v hp hd hnull hr hv
    · rwa [← Except.ok.inj h]

theorem takeEntries_induction (step : KeptByTaking declared r P) {params out : Table Value}
    {entries : List (Value × Value)} (hr : ∀ e ∈ entries, r.Gives e.1 e.2) (hp : P params)
    (h : takeEntries declared params entries = .ok out) : P out := by
  induction entries generalizing params with
  | nil => rwa [← Except.ok.inj h]
  | cons e es ih =>
      rw [takeEntries] at h
      obtain ⟨next, hnext, h⟩ := bind_eq_ok_iff.1 h
      have hn : P next := takeEntry_induction step (hr e List.mem_cons_self) hp hnext
      exact ih (fun f hf => hr f (List.mem_cons_of_mem e hf)) hn h

theorem takeSource_induction (step : KeptByTaking declared r P) {params out : Table Value}
    {source : Value} (hs : source = .null ∨ ∃ n, (n, source) ∈ r.sources) (hp : P params)
    (h : takeSource declared params source = .ok out) : P out := by
  unfold takeSource at h
  split at h
  · rename_i ht
    split at h
    · rename_i entries
      -- a map is not null, so the request gave it
      rcases hs with hs | ⟨n, hn⟩
      · simp at hs
      · exact takeEntries_induction step (fun e he => ⟨n, entries, e.1, hn, he, rfl⟩) hp h
    · simp at h
  · rwa [← Except.ok.inj h]

theorem takeSources_induction (step : KeptByTaking declared r P) {order : List Value}
    {params out : Table Value} (hp : P params)
    (h : takeSources declared r params order = .ok out) : P out := by
  induction order generalizing params with
  | nil => rwa [← Except.ok.inj h]
  | cons name order ih =>
      rw [takeSources] at h
      obtain ⟨source, hsource, h⟩ := bind_eq_ok_iff.1 h
      obtain ⟨next, hnext, h⟩ := bind_eq_ok_iff.1 h
      -- the next source starts from what was taken so far
      exact ih (takeSource_induction step (source_eq_ok hsource) hp hnext) h

end Induction

section Extract

variable {e : Endpoint} {r : Inbound} {params : Table Value}

/-- What holds of no parameters and is kept by every stored value holds of what is extracted. -/
theorem extract_induction {P : Table Value → Prop} (start : P [])
    (step : KeptByTaking e.parameters r P) (h : extract e r = .ok params) : P params :=
  takeSources_induction step start h

theorem extract_distinct (h : extract e r = .ok params) : params.Distinct :=
  extract_induction Table.distinct_nil
    (fun _ name _ _ v hp _ _ _ _ => Table.distinct_put hp name v) h

/-- Every extracted value was coerced for a declared parameter from a value that the request
gives. -/
theorem extract_origin (h : extract e r = .ok params) {name v : Value}
    (hv : params.get? name = some v) :
    ∃ d raw, e.parameters.get? name = some d ∧ r.Gives name raw ∧
      coerceAs d.type d.array raw = .ok v := by
  revert name v
  -- the invariant speaks of all names at once, since storing one must not disturb the others
  refine extract_induction (P := fun params => ∀ {name v : Value}, params.get? name = some v →
    ∃ d raw, e.parameters.get? name = some d ∧ r.Gives name raw ∧
      coerceAs d.type d.array raw = .ok v) (fun hv => by simp [Table.get?] at hv) ?_ h
  intro params stored d raw v hp hd _ hr hc name w hw
  rw [Table.get?_put] at hw
  split at hw
  · rename_i hk
    obtain rfl := Option.some.inj hw
    -- the entry was stored under a name with the same key, and so were the declaration and the
    -- value
    obtain ⟨source, entries, n, hs, hn, hnk⟩ := hr
    exact ⟨d, raw, by rw [← Table.get?_congr _ hk, hd],
      ⟨source, entries, n, hs, hn, hnk.trans hk⟩, hc⟩
  · exact hp hw

/-- The value of a declared parameter is null or was coerced for it. -/
theorem valueOf_extracted (h : extract e r = .ok params) {name : Value} {d : Definition}
    (hd : e.parameters.get? name = some d) :
    valueOf params name = .null ∨
      ∃ raw, r.Gives name raw ∧ coerceAs d.type d.array raw = .ok (valueOf params name) := by
  cases hv : params.get? name with
  | none => exact Or.inl (by rw [valueOf, hv, Option.getD_none])
  | some v =>
      obtain ⟨d', raw, hd', hr, hc⟩ := extract_origin h hv
      obtain rfl : d = d' := Option.some.inj (hd.symm.trans hd')
      exact Or.inr ⟨raw, hr, by rw [valueOf, hv, Option.getD_some, hc]⟩

end Extract

/-! ## Faults -/

/-- What can stop extraction: the name of a source that is no key, a source that is not a map, or
the coercion of a given value. -/
def ExtractionFault (declared : Table Definition) (order : List Value) (r : Inbound)
    (fault : Fault) : Prop :=
  (∃ name ∈ order, ∃ type, name.unhashable? = some type ∧ fault = .unhashable type) ∨
    (∃ name v, (name, v) ∈ r.sources ∧ v.truthy = true ∧ v.entries? = none ∧
      fault = .noAttribute v.typeName "items") ∨
    ∃ name d raw, declared.get? name = some d ∧ r.Gives name raw ∧
      coerceAs d.type d.array raw = .error fault

section Faults

variable {declared : Table Definition} {r : Inbound} {params : Table Value} {fault : Fault}

theorem takeEntries_eq_error {entries : List (Value × Value)}
    (hr : ∀ e ∈ entries, r.Gives e.1 e.2) (h : takeEntries declared params entries = .error fault) :
    ∃ name d raw, declared.get? name = some d ∧ r.Gives name raw ∧
      coerceAs d.type d.array raw = .error fault := by
  induction entries generalizing params with
  | nil => simp [takeEntries] at h
  | cons e es ih =>
      rw [takeEntries] at h
      rcases bind_eq_error_iff.1 h with h | ⟨next, -, h⟩
      · unfold takeEntry at h
        split at h
        · simp at h
        · rename_i d hd
          split at h
          · exact ⟨e.1, d, e.2, hd, hr e List.mem_cons_self, map_eq_error_iff.1 h⟩
          · simp at h
      · exact ih (fun f hf => hr f (List.mem_cons_of_mem e hf)) h

theorem takeSource_eq_error {source : Value} (hs : source = .null ∨ ∃ n, (n, source) ∈ r.sources)
    (h : takeSource declared params source = .error fault) :
    (∃ name v, (name, v) ∈ r.sources ∧ v.truthy = true ∧ v.entries? = none ∧
      fault = .noAttribute v.typeName "items") ∨
    ∃ name d raw, declared.get? name = some d ∧ r.Gives name raw ∧
      coerceAs d.type d.array raw = .error fault := by
  unfold takeSource at h
  split at h
  · rename_i ht
    rcases hs with rfl | ⟨n, hn⟩
    · simp [Value.truthy] at ht
    split at h
    · rename_i entries
      exact Or.inr (takeEntries_eq_error (fun e he => ⟨n, entries, e.1, hn, he, rfl⟩) h)
    · rename_i hmap
      refine Or.inl ⟨n, source, hn, ht, ?_, (Except.error.inj h).symm⟩
      cases source with
      | map entries => exact absurd rfl (hmap entries)
      | _ => rfl
  · simp at h

theorem takeSources_eq_error {order : List Value}
    (h : takeSources declared r params order = .error fault) :
    ExtractionFault declared order r fault := by
  induction order generalizing params with
  | nil => simp [takeSources] at h
  | cons name order ih =>
      rw [takeSources] at h
      -- the look-up fails, or the source itself, or one of the sources after it
      rcases bind_eq_error_iff.1 h with hname | ⟨source, hsource, hnext⟩
      · obtain ⟨type, htype, hf⟩ := source_eq_error hname
        exact Or.inl ⟨name, List.mem_cons_self, type, htype, hf⟩
      rcases bind_eq_error_iff.1 hnext with htake | ⟨next, -, hrest⟩
      · exact Or.inr (takeSource_eq_error (source_eq_ok hsource) htake)
      · rcases ih hrest with ⟨m, hm, type, htype, hf⟩ | hf
        · exact Or.inl ⟨m, List.mem_cons_of_mem name hm, type, htype, hf⟩
        · exact Or.inr hf

end Faults

theorem extract_eq_error {e : Endpoint} {r : Inbound} {fault : Fault}
    (h : extract e r = .error fault) : ExtractionFault e.parameters e.order r fault :=
  takeSources_eq_error h

/-- Where every declared type is one of the types, no mistake in a declaration is met. -/
theorem extract_ne_declaration {e : Endpoint} {r : Inbound}
    (he : ∀ name d, (name, d) ∈ e.parameters → ∃ k, d.type = .kind k) (cause : DeclarationError) :
    extract e r ≠ .error (.declaration cause) := by
  intro h
  rcases extract_eq_error h with ⟨_, _, _, _, hf⟩ | ⟨_, _, _, _, _, hf⟩ | ⟨name, d, raw, hd, _, hc⟩
  · simp at hf
  · simp at hf
  · obtain ⟨n, -, hm⟩ := Table.mem_of_get? hd
    obtain ⟨k, hk⟩ := he n d hm
    -- with a type that was parsed, coercion can only fail at the digit limit
    rw [hk, coerceAs_kind] at hc
    exact Fault.noConfusion (limited_coerce k _ raw _ hc)

/-! ## Defaults -/

section Defaults

variable {declared : Table Definition}

/-- Filling in one default. -/
def fillDefault (filled : Table Value) (entry : Value × Definition) : Table Value :=
  if (valueOf filled entry.1).isNull then filled.put entry.1 entry.2.default else filled

theorem fillDefaults_cons (entry : Value × Definition) (params : Table Value) :
    fillDefaults (entry :: declared) params = fillDefaults declared (fillDefault params entry) :=
  rfl

theorem distinct_fillDefault {params : Table Value} (h : params.Distinct)
    (entry : Value × Definition) : (fillDefault params entry).Distinct := by
  unfold fillDefault
  split
  · exact Table.distinct_put h _ _
  · exact h

theorem distinct_fillDefaults {params : Table Value} (h : params.Distinct) :
    (fillDefaults declared params).Distinct := by
  induction declared generalizing params with
  | nil => exact h
  | cons entry declared ih =>
      rw [fillDefaults_cons]
      exact ih (distinct_fillDefault h entry)

theorem get?_isSome_fillDefault (params : Table Value) (entry : Value × Definition)
    (name : Value) :
    ((fillDefault params entry).get? name).isSome ↔
      (params.get? name).isSome ∨ entry.1.key = name.key := by
  unfold fillDefault
  split
  · rw [Table.get?_put]
    split
    · rename_i hk
      simp [hk]
    · rename_i hk
      simp [hk]
  · rename_i hnull
    constructor
    · exact Or.inl
    · rintro (h | hk)
      · exact h
      -- a value that is not null was stored under this key before
      · rw [← Table.get?_congr params hk]
        cases hv : params.get? entry.1 with
        | none => simp [valueOf, hv, Value.isNull] at hnull
        | some v => rfl

/-- The names after filling are those of the parameters and the declared ones. -/
theorem get?_isSome_fillDefaults (params : Table Value) (name : Value) :
    ((fillDefaults declared params).get? name).isSome ↔
      (params.get? name).isSome ∨ (declared.get? name).isSome := by
  induction declared generalizing params with
  | nil => simp [fillDefaults, Table.get?]
  | cons entry declared ih =>
      rw [fillDefaults_cons, ih, get?_isSome_fillDefault, or_assoc]
      refine or_congr Iff.rfl ?_
      simp only [Table.get?]
      split
      · rename_i hk
        simp [hk]
      · rename_i hk
        simp [hk]

theorem valueOf_fillDefault_of_ne {params : Table Value} {entry : Value × Definition}
    {name : Value} (h : entry.1.key ≠ name.key) :
    valueOf (fillDefault params entry) name = valueOf params name := by
  unfold fillDefault
  split
  · rw [valueOf, Table.get?_put_of_ne _ _ h, valueOf]
  · rfl

theorem valueOf_fillDefaults_of_ne {params : Table Value} {name : Value}
    (h : ∀ entry ∈ declared, entry.1.key ≠ name.key) :
    valueOf (fillDefaults declared params) name = valueOf params name := by
  induction declared generalizing params with
  | nil => rfl
  | cons entry declared ih =>
      rw [fillDefaults_cons, ih fun f hf => h f (List.mem_cons_of_mem entry hf)]
      exact valueOf_fillDefault_of_ne (h entry List.mem_cons_self)

/-- A declared parameter keeps a value that is not null and otherwise takes its default. -/
theorem valueOf_fillDefaults (hd : Table.Distinct declared) {params : Table Value} {name : Value}
    {d : Definition} (h : (name, d) ∈ declared) :
    valueOf (fillDefaults declared params) name =
      if (valueOf params name).isNull then d.default else valueOf params name := by
  induction declared generalizing params with
  | nil => simp at h
  | cons entry declared ih =>
      obtain ⟨hne, hd'⟩ := Table.distinct_cons_iff.1 hd
      rw [fillDefaults_cons]
      -- names do not repeat, so only the entry of this name can change its value
      rcases List.mem_cons.1 h with rfl | h
      · rw [valueOf_fillDefaults_of_ne hne, fillDefault]
        split
        · rw [valueOf, Table.get?_put_of_eq _ _ rfl, Option.getD_some]
        · rfl
      · rw [ih hd' h, valueOf_fillDefault_of_ne (hne (name, d) h).symm]

end Defaults

end ParamGate
