import ParamGate.Proofs.Gate.Extraction

/-!
# Which source decides a parameter

The sources of a request are searched in order, and the first that gives a usable value for a name
decides it. Extraction keeps one table for all names, reads it again at every entry, and lets an
entry replace a value as long as that is null. `Taken` says what one source does to a single name,
and `Settled` what several sources in a row leave under it. The main statement, `extract_settles`,
describes the extracted table name by name and concludes what the value of a name cannot depend on.
-/

namespace ParamGate

theorem valueOf_isNull_iff {params : Table Value} {name : Value} :
    (valueOf params name).isNull = true ↔
      params.get? name = none ∨ params.get? name = some .null := by
  rw [Value.isNull_iff, valueOf]
  cases params.get? name with
  | none => simp
  | some v => simp

/-! ## What a source gives -/

section Brings

variable {r : Inbound} {source name raw : Value}

/-- The source gives the raw value for the name. -/
def Inbound.Brings (r : Inbound) (source name raw : Value) : Prop :=
  ∃ entries n, r.sources.get? source = some (.map entries) ∧ (n, raw) ∈ entries ∧ n.key = name.key

/-- The sources are mappings: none of them has two entries for one key. -/
def Inbound.Distinct (r : Inbound) : Prop :=
  ∀ source entries, r.sources.get? source = some (.map entries) → Table.Distinct entries

/-- Whatever the source gives for the name, it cannot be read as declared. -/
def Inbound.Unusable (r : Inbound) (d : Definition) (name source : Value) : Prop :=
  ∀ raw, r.Brings source name raw → coerceAs d.type d.array raw = .ok .null

/-- The raw value of a name in a source; only maps give any. -/
def Value.rawOf? (source name : Value) : Option Value :=
  source.entries?.bind fun entries => Table.get? entries name

theorem rawOf?_eq_some_iff (hr : r.Distinct) :
    ((r.sources.get? source).getD .null).rawOf? name = some raw ↔ r.Brings source name raw := by
  constructor
  · intro h
    cases hs : r.sources.get? source with
    | none => simp [hs, Value.rawOf?, Value.entries?] at h
    | some v =>
        rw [hs, Option.getD_some] at h
        cases v with
        | map entries =>
            obtain ⟨n, hn, hm⟩ := Table.mem_of_get? h
            exact ⟨entries, n, hs, hm, hn⟩
        | _ => simp [Value.rawOf?, Value.entries?] at h
  · rintro ⟨entries, n, hs, hm, hn⟩
    have hget : Table.get? entries n = some raw := Table.get?_of_mem (hr source entries hs) hm
    rw [hs, Option.getD_some]
    exact (Table.get?_congr entries hn).symm.trans hget

theorem rawOf?_eq_none_iff (hr : r.Distinct) :
    ((r.sources.get? source).getD .null).rawOf? name = none ↔
      ∀ raw, ¬ r.Brings source name raw := by
  rw [Option.eq_none_iff_forall_ne_some]
  exact forall_congr' fun raw => not_congr (rawOf?_eq_some_iff hr)

/-- A source gives at most one value for a name. -/
theorem Inbound.Brings.unique (hr : r.Distinct) {other : Value} (h : r.Brings source name raw)
    (h' : r.Brings source name other) : raw = other := by
  have hraw := (rawOf?_eq_some_iff hr).2 h
  rw [(rawOf?_eq_some_iff hr).2 h'] at hraw
  exact (Option.some.inj hraw).symm

end Brings

/-! ## One source -/

/-- What a source does to one name: `raw?` is what it gives for the name, if anything. -/
inductive Taken (declared? : Option Definition) (raw? before : Option Value) :
    Option Value → Prop
  /-- The name is not declared, nothing is given for it, or it has a value. -/
  | kept : (declared? = none ∨ raw? = none ∨ ∃ v, before = some v ∧ v ≠ .null) →
      Taken declared? raw? before before
  | stored {d : Definition} {raw v : Value} : declared? = some d → raw? = some raw →
      (before = none ∨ before = some .null) → coerceAs d.type d.array raw = .ok v →
      Taken declared? raw? before (some v)

theorem Taken.eq_of_not_given {declared? : Option Definition} {before after : Option Value}
    (h : Taken declared? none before after) : after = before := by
  cases h with
  | kept _ => rfl
  | stored _ hraw _ _ => simp at hraw

section OneSource

variable {declared : Table Definition} {params out : Table Value} {name n raw : Value}

theorem taken_takeEntry (h : takeEntry declared params name raw = .ok out) (n : Value) :
    Taken (declared.get? n) (if name.key = n.key then some raw else none) (params.get? n)
      (out.get? n) := by
  unfold takeEntry at h
  by_cases hk : name.key = n.key
  · rw [if_pos hk, ← Table.get?_congr declared hk]
    cases hd : declared.get? name with
    | none =>
        rw [hd] at h
        rw [← Except.ok.inj h]
        exact .kept (Or.inl rfl)
    | some d =>
        simp only [hd] at h
        split at h
        · rename_i hnull
          obtain ⟨v, hv, rfl⟩ := map_eq_ok_iff.1 h
          have hbefore := valueOf_isNull_iff.1 hnull
          rw [Table.get?_congr params hk] at hbefore
          rw [Table.get?_put_of_eq params v hk]
          exact .stored rfl rfl hbefore hv
        · rename_i hvalue
          rw [← Except.ok.inj h]
          have hbefore := mt valueOf_isNull_iff.2 hvalue
          rw [Table.get?_congr params hk] at hbefore
          refine .kept (Or.inr (Or.inr ?_))
          cases hv : params.get? n with
          | none => exact absurd (Or.inl hv) hbefore
          | some v => exact ⟨v, rfl, fun hnull => hbefore (Or.inr (by rw [hv, hnull]))⟩
  -- an entry of another name leaves this one alone, whether or not it is taken
  · rw [if_neg hk]
    have hsame : out.get? n = params.get? n := by
      split at h
      · rw [← Except.ok.inj h]
      · split at h
        · obtain ⟨v, -, rfl⟩ := map_eq_ok_iff.1 h
          exact Table.get?_put_of_ne params v hk
        · rw [← Except.ok.inj h]
    rw [hsame]
    exact .kept (Or.inr (Or.inl rfl))

theorem taken_takeEntries {entries : Table Value} (he : Table.Distinct entries)
    (h : takeEntries declared params entries = .ok out) (n : Value) :
    Taken (declared.get? n) (Table.get? entries n) (params.get? n) (out.get? n) := by
  induction entries generalizing params with
  | nil =>
      rw [← Except.ok.inj h]
      exact .kept (Or.inr (Or.inl rfl))
  | cons entry entries ih =>
      obtain ⟨hne, hd⟩ := Table.distinct_cons_iff.1 he
      rw [takeEntries] at h
      obtain ⟨next, hnext, h⟩ := bind_eq_ok_iff.1 h
      have hfirst := taken_takeEntry hnext n
      have hrest := ih hd h
      rw [Table.get?]
      split
      · rename_i hk
        -- keys do not repeat, so the entries behind this one leave the name alone
        have hnone : Table.get? entries n = none := by
          rw [← Option.not_isSome_iff_eq_none, Table.get?_isSome_iff]
          rintro ⟨f, hf, hfk⟩
          exact hne f hf (hfk.trans hk.symm)
        rw [if_pos hk] at hfirst
        rw [hnone] at hrest
        rw [hrest.eq_of_not_given]
        exact hfirst
      · rename_i hk
        rw [if_neg hk] at hfirst
        rw [← hfirst.eq_of_not_given]
        exact hrest

theorem taken_takeSource {source : Value}
    (hs : ∀ entries, source = .map entries → Table.Distinct entries)
    (h : takeSource declared params source = .ok out) (n : Value) :
    Taken (declared.get? n) (source.rawOf? n) (params.get? n) (out.get? n) := by
  unfold takeSource at h
  split at h
  · split at h
    · rename_i entries _
      exact taken_takeEntries (hs entries rfl) h n
    · simp at h
  -- what is not true has no entries
  · rename_i hfalse
    have hnone : source.rawOf? n = none := by
      cases source with
      | map entries =>
          cases entries with
          | nil => rfl
          | cons entry entries => simp [Value.truthy] at hfalse
      | _ => rfl
    rw [← Except.ok.inj h, hnone]
    exact .kept (Or.inr (Or.inl rfl))

end OneSource

/-! ## Several sources -/

/-- What several sources, searched in order, leave under a name: a name that is declared and that
one of them gives has a value, and the first usable one is that value. -/
structure Settled (declared : Table Definition) (r : Inbound) (name : Value) (order : List Value)
    (found : Option Value) : Prop where
  isSome_iff : found.isSome ↔
    (declared.get? name).isSome ∧ ∃ source ∈ order, ∃ raw, r.Brings source name raw
  usable : ∀ d v, declared.get? name = some d → found = some v → v ≠ .null →
    ∃ before source after raw, order = before ++ source :: after ∧
      (∀ s ∈ before, r.Unusable d name s) ∧ r.Brings source name raw ∧
      coerceAs d.type d.array raw = .ok v
  unusable : ∀ d, declared.get? name = some d → found = some .null →
    ∀ source ∈ order, r.Unusable d name source

section Several

variable {declared : Table Definition} {r : Inbound} {name source : Value} {order : List Value}
  {found after : Option Value}

theorem settled_nil (declared : Table Definition) (r : Inbound) (name : Value) :
    Settled declared r name [] none := by
  refine ⟨by simp, ?_, ?_⟩
  · intro d v _ hv
    simp at hv
  · intro d _ hv
    simp at hv

/-- As long as no value was found, no source so far gave a usable one. -/
theorem Settled.unusable_of_null (h : Settled declared r name order found) {d : Definition}
    (hd : declared.get? name = some d) (hfound : found = none ∨ found = some .null) :
    ∀ s ∈ order, r.Unusable d name s := by
  rcases hfound with rfl | hnull
  · intro s hs raw hraw
    have hsome : (none : Option Value).isSome := h.isSome_iff.2 ⟨by simp [hd], s, hs, raw, hraw⟩
    simp at hsome
  · exact h.unusable d hd hnull

/-- One more source, of which nothing is kept, changes nothing. -/
theorem Settled.concat_kept (hr : r.Distinct) (h : Settled declared r name order found)
    (hkept : declared.get? name = none ∨
      ((r.sources.get? source).getD .null).rawOf? name = none ∨ ∃ v, found = some v ∧ v ≠ .null) :
    Settled declared r name (order ++ [source]) found := by
  refine ⟨?_, ?_, ?_⟩
  · rw [h.isSome_iff]
    constructor
    · rintro ⟨hd, s, hs, hraw⟩
      exact ⟨hd, s, List.mem_append_left _ hs, hraw⟩
    · rintro ⟨hd, s, hs, raw, hraw⟩
      rcases List.mem_append.1 hs with hs | hs
      · exact ⟨hd, s, hs, raw, hraw⟩
      rw [List.mem_singleton.1 hs] at hraw
      -- the new source gives the name, so the name had a value before
      rcases hkept with hnone | hnone | ⟨v, hv, -⟩
      · simp [hnone] at hd
      · exact absurd hraw ((rawOf?_eq_none_iff hr).1 hnone raw)
      · exact h.isSome_iff.1 (by simp [hv])
  · intro d v hd hv hne
    obtain ⟨before, s, rest, raw, horder, hbefore, hraw, hc⟩ := h.usable d v hd hv hne
    exact ⟨before, s, rest ++ [source], raw, by simp [horder], hbefore, hraw, hc⟩
  · intro d hd hnull s hs
    rcases List.mem_append.1 hs with hs | hs
    · exact h.unusable d hd hnull s hs
    rw [List.mem_singleton.1 hs]
    intro raw hraw
    rcases hkept with hnone | hnone | ⟨v, hv, hne⟩
    · simp [hnone] at hd
    · exact absurd hraw ((rawOf?_eq_none_iff hr).1 hnone raw)
    · rw [hv] at hnull
      exact absurd (Option.some.inj hnull) hne

/-- One more source, whose value is stored, settles the name if it is usable. -/
theorem Settled.concat_stored (hr : r.Distinct) (h : Settled declared r name order found)
    {d : Definition} {raw v : Value} (hd : declared.get? name = some d)
    (hraw : r.Brings source name raw) (hfound : found = none ∨ found = some .null)
    (hc : coerceAs d.type d.array raw = .ok v) :
    Settled declared r name (order ++ [source]) (some v) := by
  have hbefore := h.unusable_of_null hd hfound
  refine ⟨?_, ?_, ?_⟩
  · simp only [Option.isSome_some, true_iff]
    exact ⟨by simp [hd], source, by simp, raw, hraw⟩
  · intro d' w hd' hw hne
    obtain rfl := Option.some.inj (hd.symm.trans hd')
    obtain rfl := Option.some.inj hw
    exact ⟨order, source, [], raw, rfl, hbefore, hraw, hc⟩
  · intro d' hd' hnull s hs
    obtain rfl := Option.some.inj (hd.symm.trans hd')
    obtain rfl := Option.some.inj hnull
    rcases List.mem_append.1 hs with hs | hs
    · exact hbefore s hs
    rw [List.mem_singleton.1 hs]
    intro other hother
    rw [← hraw.unique hr hother]
    exact hc

/-- One more source settles the name for one more place of the order. -/
theorem Settled.concat (hr : r.Distinct) (h : Settled declared r name order found)
    (ht : Taken (declared.get? name) (((r.sources.get? source).getD .null).rawOf? name) found
      after) : Settled declared r name (order ++ [source]) after := by
  cases ht with
  | kept hkept => exact h.concat_kept hr hkept
  | stored hd hraw hfound hc =>
      exact h.concat_stored hr hd ((rawOf?_eq_some_iff hr).1 hraw) hfound hc

theorem settled_takeSources (hr : r.Distinct) {before : List Value} {params out : Table Value}
    (hp : Settled declared r name before (params.get? name))
    (h : takeSources declared r params order = .ok out) :
    Settled declared r name (before ++ order) (out.get? name) := by
  -- the sources searched so far move from the order to `before`
  induction order generalizing before params with
  | nil =>
      rw [← Except.ok.inj h, List.append_nil]
      exact hp
  | cons source order ih =>
      rw [takeSources] at h
      obtain ⟨v, hv, h⟩ := bind_eq_ok_iff.1 h
      obtain ⟨next, hnext, h⟩ := bind_eq_ok_iff.1 h
      have hsource : v = (r.sources.get? source).getD .null := by
        unfold Inbound.source at hv
        split at hv
        · simp at hv
        · exact (Except.ok.inj hv).symm
      have hmap : ∀ entries, v = .map entries → Table.Distinct entries := by
        intro entries he
        rw [he] at hsource
        cases hs : r.sources.get? source with
        | none => simp [hs] at hsource
        | some w =>
            rw [hs, Option.getD_some] at hsource
            exact hr source entries (by rw [hs, hsource])
      have ht := taken_takeSource hmap hnext name
      rw [hsource] at ht
      have hall := ih (hp.concat hr ht) h
      rwa [List.append_assoc, List.singleton_append] at hall

/-! ## What is settled is fixed -/

/-- The first item of a list with a property is one item. -/
theorem first_unique {α : Type} {P : α → Prop} {x y : α} {xs ys before after : List α}
    (h : xs ++ x :: ys = before ++ y :: after) (hxs : ∀ z ∈ xs, ¬ P z) (hx : P x)
    (hbefore : ∀ z ∈ before, ¬ P z) (hy : P y) : x = y := by
  induction xs generalizing before with
  | nil =>
      cases before with
      | nil => exact (List.cons.inj h).1
      | cons b before =>
          rw [(List.cons.inj h).1] at hx
          exact absurd hx (hbefore b List.mem_cons_self)
  | cons w xs ih =>
      cases before with
      | nil =>
          rw [(List.cons.inj h).1] at hxs
          exact absurd hy (hxs y List.mem_cons_self)
      | cons b before =>
          exact ih (List.cons.inj h).2 (fun z hz => hxs z (List.mem_cons_of_mem w hz))
            fun z hz => hbefore z (List.mem_cons_of_mem b hz)

theorem Inbound.unusable_congr {r' : Inbound} {d : Definition}
    (hsame : ∀ raw, r'.Brings source name raw ↔ r.Brings source name raw) :
    r'.Unusable d name source ↔ r.Unusable d name source :=
  forall_congr' fun raw => imp_congr (hsame raw) Iff.rfl

/-- What is settled under a name depends on nothing but its declaration and what the sources of the
order give for it. -/
theorem Settled.congr {declared' : Table Definition} {r' : Inbound}
    (h : Settled declared' r' name order found)
    (hd : declared'.get? name = declared.get? name)
    (hsame : ∀ s ∈ order, ∀ raw, r'.Brings s name raw ↔ r.Brings s name raw) :
    Settled declared r name order found := by
  refine ⟨?_, ?_, ?_⟩
  · rw [h.isSome_iff, hd]
    apply and_congr_right
    intro _
    apply exists_congr
    intro s
    apply and_congr_right
    intro hs
    exact exists_congr (hsame s hs)
  · intro d v hdeclared hv hne
    obtain ⟨before, s, rest, raw, rfl, hbefore, hraw, hc⟩ :=
      h.usable d v (hd.trans hdeclared) hv hne
    refine ⟨before, s, rest, raw, rfl, ?_, (hsame s (by simp) raw).1 hraw, hc⟩
    intro t ht
    exact (Inbound.unusable_congr (hsame t (List.mem_append_left _ ht))).1 (hbefore t ht)
  · intro d hdeclared hnull s hs
    exact (Inbound.unusable_congr (hsame s hs)).1 (h.unusable d (hd.trans hdeclared) hnull s hs)

/-- A value that is settled is null exactly if no source gives a usable one. -/
theorem Settled.eq_null_iff (h : Settled declared r name order found) {d : Definition} {v : Value}
    (hd : declared.get? name = some d) (hv : found = some v) :
    v = .null ↔ ∀ s ∈ order, r.Unusable d name s := by
  constructor
  · rintro rfl
    exact h.unusable d hd hv
  · intro hall
    apply Classical.byContradiction
    intro hne
    obtain ⟨before, s, rest, raw, horder, -, hraw, hc⟩ := h.usable d v hd hv hne
    have hnull := hall s (by simp [horder]) raw hraw
    rw [hc] at hnull
    exact hne (Except.ok.inj hnull)

/-- Nothing else can be settled under the name. -/
theorem Settled.unique (hr : r.Distinct) (h : Settled declared r name order found)
    (h' : Settled declared r name order after) : after = found := by
  have hsome : after.isSome ↔ found.isSome := h'.isSome_iff.trans h.isSome_iff.symm
  cases hfound : found with
  | none =>
      rw [hfound, Option.isSome_none] at hsome
      simpa using hsome
  | some v =>
      obtain ⟨w, hafter⟩ := Option.isSome_iff_exists.1 (hsome.2 (by simp [hfound]))
      obtain ⟨d, hd⟩ := Option.isSome_iff_exists.1 (h.isSome_iff.1 (by simp [hfound])).1
      have hnull : w = .null ↔ v = .null :=
        (h'.eq_null_iff hd hafter).trans (h.eq_null_iff hd hfound).symm
      rw [hafter, Option.some.injEq]
      by_cases hv : v = .null
      · rw [hv, hnull.2 hv]
      -- both values are those of the first usable source, which gives one value for the name
      · obtain ⟨xs, x, ys, raw, horder, hxs, hraw, hc⟩ := h.usable d v hd hfound hv
        obtain ⟨before, y, rest, raw', horder', hbefore, hraw', hc'⟩ :=
          h'.usable d w hd hafter (mt hnull.1 hv)
        have hx : ¬ r.Unusable d name x := by
          intro hx
          rw [hx raw hraw] at hc
          exact hv (Except.ok.inj hc).symm
        have hy : ¬ r.Unusable d name y := by
          intro hy
          rw [hy raw' hraw'] at hc'
          exact hv (hnull.1 (Except.ok.inj hc').symm)
        have hsource : x = y :=
          first_unique (P := fun s => ¬ r.Unusable d name s) (horder.symm.trans horder')
            (fun s hs hn => hn (hxs s hs)) hx (fun s hs hn => hn (hbefore s hs)) hy
        rw [← hsource] at hraw'
        rw [← hraw.unique hr hraw', hc] at hc'
        exact (Except.ok.inj hc').symm

end Several

/-! ## The extracted parameters -/

/-- What is extracted, name by name: a name is there if it is declared and some source of the order
gives it, and its value is that of the first source whose value is usable, or null if there is none.
So nothing counts for it but its own declaration and what the sources of the order give under it. -/
theorem extract_settles {e : Endpoint} {r : Inbound} {params : Table Value} (hr : r.Distinct)
    (h : extract e r = .ok params) :
    params.Distinct ∧ ∀ name,
      Settled e.parameters r name e.order (params.get? name) ∧
      ∀ (e' : Endpoint) (r' : Inbound) (params' : Table Value), r'.Distinct →
        extract e' r' = .ok params' → e'.order = e.order →
        e'.parameters.get? name = e.parameters.get? name →
        (∀ s ∈ e.order, ∀ raw, r'.Brings s name raw ↔ r.Brings s name raw) →
        params'.get? name = params.get? name := by
  refine ⟨extract_distinct h, ?_⟩
  intro name
  have hsettled : Settled e.parameters r name e.order (params.get? name) :=
    settled_takeSources hr (settled_nil e.parameters r name) h
  refine ⟨hsettled, ?_⟩
  intro e' r' params' hr' h' horder hd hsame
  have hother : Settled e'.parameters r' name e'.order (params'.get? name) :=
    settled_takeSources hr' (settled_nil e'.parameters r' name) h'
  rw [horder] at hother
  exact hsettled.unique hr (hother.congr hd hsame)

/-! ### A source that gives nothing usable -/

/-- Definition of a list of integers with a default of which one part cannot be read. -/
def countsDefinition : Definition where
  type := .kind .integer
  array := .bool true
  default := .list [.int 1, .null]
  required := .bool false
  min := .null
  max := .null
  description := .null
  validate := .null
  error := .null
  success := .null

/-- An endpoint with that parameter, which searches the query twice. -/
def countsEndpoint : Endpoint where
  path := .string "/items"
  method := .string "GET"
  version := .null
  parameters := [(.string "counts", countsDefinition)]
  order := [.string "query", .string "body", .string "query"]
  slot := .string standardSlot
  error := .null
  success := .null
  validate := .null
  description := .null
  development := .bool false

/-- A request with an empty text in the query and two items in the body. -/
def countsRequest : Inbound :=
  ⟨.string "/items", .string "GET", .null,
    [(.string "query", .map [(.string "counts", .string ""), (.string "other", .int 7)]),
      (.string "body", .map [(.string "counts", .string "4,y")])]⟩

theorem countsRequest_distinct : countsRequest.Distinct := by
  intro source entries h
  obtain ⟨n, -, hm⟩ := Table.mem_of_get? h
  have hone : ∀ e : Value × Value, Table.Distinct [e] :=
    fun e => Table.distinct_cons_iff.2 ⟨by simp, Table.distinct_nil⟩
  rcases List.mem_cons.1 hm with he | hm
  · obtain rfl := Value.map.inj (Prod.mk.inj he).2
    exact Table.distinct_cons_iff.2 ⟨by simp [Value.key], hone _⟩
  · obtain rfl := Value.map.inj (Prod.mk.inj (List.mem_singleton.1 hm)).2
    exact hone _

/-- The value comes from the body, since that of the query cannot be used. -/
theorem extract_settles_counts :
    countsRequest.Distinct ∧
      extract countsEndpoint countsRequest =
        .ok [(.string "counts", .list [.int 4, .null])] ∧
      Settled countsEndpoint.parameters countsRequest (.string "counts") countsEndpoint.order
        (some (.list [.int 4, .null])) := by
  have h : extract countsEndpoint countsRequest =
      .ok [(.string "counts", .list [.int 4, .null])] := rfl
  exact ⟨countsRequest_distinct, h,
    ((extract_settles countsRequest_distinct h).2 (.string "counts")).1⟩

end ParamGate
