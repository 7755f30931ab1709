import Mathlib.Data.List.DropRight
import ParamGate.Proofs.Endpoint.Registry
import ParamGate.Proofs.Gate.Registration

/-!
# Gates and the history of their registrations

A gate is changed by configuring declarations, by registering endpoints and by clearing the
registry. An operation that fails, and the configuration of a route that needs no verification,
change nothing. Whatever was done to a gate, its registry is the one that the stores since the last
clear leave (`Gate.run_eq`), so that look-ups and the number of entries can be read off the history
(`Gate.lookup_after_run`).
-/

namespace ParamGate

namespace Gate

/-- What is done to a gate and its registry. -/
inductive Operation where
  | configure (path method api version : Value)
  | register (path method version : Value) (e : Endpoint)
  | clear

/-- The operation empties the registry. -/
def Operation.isClear : Operation → Bool
  | .clear => true
  | _ => false

/-- What an operation stores, and under which key. A declaration is stored if it is to be verified
and is accepted; nothing is stored without a key. -/
def Operation.stores? (defaults : Defaults) : Operation → Option (EndpointKey × Endpoint)
  | .configure path method api version =>
      match Endpoint.isVerified api method,
        Endpoint.ofDeclaration path method api defaults version,
        EndpointKey.parse path method version with
      | .ok true, .ok e, .ok k => some (k, e)
      | _, _, _ => none
  | .register path method version e =>
      match EndpointKey.parse path method version with
      | .ok k => some (k, e)
      | .error _ => none
  | .clear => none

/-- The gate after an operation; one that fails leaves it as it was. -/
def perform (g : Gate) : Operation → Gate
  | .configure path method api version =>
      match g.configure path method api version with
      | .ok (next, _) => next
      | .error _ => g
  | .register path method version e =>
      match g.registry.register path method version e with
      | .ok registry => { g with registry := registry }
      | .error _ => g
  | .clear => { g with registry := .empty }

/-- The gate with something stored in its registry, if there is something to store. -/
def store (g : Gate) : Option (EndpointKey × Endpoint) → Gate
  | some (k, e) => { g with registry := g.registry.put k e }
  | none => g

/-- The gate after operations in order. -/
def run (g : Gate) (ops : List Operation) : Gate := ops.foldl perform g

/-- What was stored since the registry was last cleared, oldest first. -/
def storedBy (defaults : Defaults) (ops : List Operation) : List (EndpointKey × Endpoint) :=
  (ops.rtakeWhile fun op => !op.isClear).filterMap (Operation.stores? defaults)

/-! ## One operation -/

section Perform

variable {g : Gate} {path method api version : Value}

/-- A declaration that is to be verified is stored under its key. -/
theorem configure_of_verified (hv : Endpoint.isVerified api method = .ok true) :
    g.configure path method api version =
      (Endpoint.ofDeclaration path method api g.defaults version >>= fun e =>
        (EndpointKey.parse path method version).map fun k =>
          ({ g with registry := g.registry.put k e }, .verify)) := by
  unfold configure
  rw [hv, ok_bind, if_pos rfl]
  cases Endpoint.ofDeclaration path method api g.defaults version with
  | error fault => rfl
  | ok e =>
      rw [ok_bind, ok_bind, Registry.register_eq]
      cases EndpointKey.parse path method version with
      | error fault => rfl
      | ok k => rfl

/-- Unless it registers an endpoint, a configuration leaves the gate as it was. -/
theorem perform_configure_of_idle
    (h : ∀ next, g.configure path method api version ≠ .ok (next, .verify)) :
    g.perform (.configure path method api version) = g := by
  rw [perform]
  split
  · rename_i next t hc
    rcases configure_eq_ok hc with ⟨-, hg⟩ | ⟨rfl, -⟩
    · exact hg
    · exact absurd hc (h next)
  · rfl

theorem perform_configure (g : Gate) (path method api version : Value) :
    g.perform (.configure path method api version) =
      g.store ((Operation.configure path method api version).stores? g.defaults) := by
  cases hv : Endpoint.isVerified api method with
  | error fault =>
      rw [Operation.stores?, hv]
      apply perform_configure_of_idle
      intro next
      simp [configure, hv]
  | ok verified =>
      cases verified with
      | false =>
          rw [Operation.stores?, hv]
          apply perform_configure_of_idle
          intro next hc
          -- what is not verified is passed through, if it is configured at all
          rw [configure, hv, ok_bind, if_neg Bool.false_ne_true] at hc
          obtain ⟨upper, -, hc⟩ := bind_eq_ok_iff.1 hc
          simp at hc
      | true =>
          rw [perform, configure_of_verified hv, Operation.stores?, hv]
          cases Endpoint.ofDeclaration path method api g.defaults version with
          | error fault => rfl
          | ok e =>
              cases EndpointKey.parse path method version with
              | error fault => rfl
              | ok k => rfl

/-- An operation stores what it has to store, and changes nothing else. -/
theorem perform_eq (g : Gate) {op : Operation} (h : op.isClear = false) :
    g.perform op = g.store (op.stores? g.defaults) := by
  cases op with
  | configure path method api version => exact perform_configure g path method api version
  | register path method version e =>
      rw [perform, Registry.register_eq, Operation.stores?]
      cases EndpointKey.parse path method version with
      | error fault => rfl
      | ok k => rfl
  | clear => simp [Operation.isClear] at h

end Perform

/-- A configuration that stores something stores the endpoint of its declaration under its key. -/
theorem Operation.stores?_configure_eq_some {defaults : Defaults}
    {path method api version : Value} {k : EndpointKey} {e : Endpoint}
    (h : (configure path method api version).stores? defaults = some (k, e)) :
    Endpoint.ofDeclaration path method api defaults version = .ok e ∧
      EndpointKey.parse path method version = .ok k := by
  rw [stores?] at h
  split at h
  · rename_i e' k' _ he hk
    obtain ⟨rfl, rfl⟩ := Prod.mk.inj (Option.some.inj h)
    exact ⟨he, hk⟩
  · simp at h

/-! ## Any number of operations -/

section Run

variable (defaults : Defaults)

theorem run_concat (g : Gate) (ops : List Operation) (op : Operation) :
    g.run (ops ++ [op]) = (g.run ops).perform op := by
  simp [run]

theorem storedBy_concat (ops : List Operation) {op : Operation} (h : op.isClear = false) :
    storedBy defaults (ops ++ [op]) =
      storedBy defaults ops ++ (op.stores? defaults).toList := by
  have hop : (!op.isClear) = true := by simp [h]
  rw [storedBy, List.rtakeWhile_concat, if_pos hop, List.filterMap_append, storedBy]
  cases hs : op.stores? defaults with
  | none => simp [hs]
  | some e => simp [hs]

theorem storedBy_concat_clear (ops : List Operation) :
    storedBy defaults (ops ++ [.clear]) = [] := by
  rw [storedBy, List.rtakeWhile_concat_neg _ _ _ (by simp [Operation.isClear])]
  rfl

/-- A history without a clear keeps all that it stores. -/
theorem storedBy_of_not_clear {ops : List Operation} (h : ∀ op ∈ ops, op.isClear = false) :
    storedBy defaults ops = ops.filterMap (Operation.stores? defaults) := by
  have hkept : ops.rtakeWhile (fun op => !op.isClear) = ops := by
    rw [List.rtakeWhile_eq_self_iff]
    intro op hop
    simp [h op hop]
  rw [storedBy, hkept]

/-- After operations the registry is the one that the stores since the last clear leave, of the
registry that was there before if nothing was cleared. -/
theorem run_eq (g : Gate) (ops : List Operation) :
    g.run ops =
      { g with
        registry := Registry.putAll (if ops.any Operation.isClear then .empty else g.registry)
          (storedBy g.defaults ops) } := by
  induction ops using List.reverseRecOn with
  | nil => rfl
  | append_singleton ops op ih =>
      rw [run_concat, ih]
      cases hop : op.isClear with
      | true =>
          cases op with
          | clear =>
              rw [storedBy_concat_clear]
              simp [perform, Registry.putAll, Operation.isClear]
          | configure _ _ _ _ => simp [Operation.isClear] at hop
          | register _ _ _ _ => simp [Operation.isClear] at hop
      | false =>
          rw [perform_eq _ hop, storedBy_concat _ ops hop, List.any_append]
          cases op.stores? g.defaults with
          | none => simp [store, hop]
          | some e => simp [store, hop, Registry.putAll_concat]

theorem run_of_not_clear (g : Gate) {ops : List Operation} (h : ∀ op ∈ ops, op.isClear = false) :
    g.run ops =
      { g with
        registry := g.registry.putAll (ops.filterMap (Operation.stores? g.defaults)) } := by
  have hnone : ops.any Operation.isClear = false := by
    rw [List.any_eq_false]
    intro op hop
    simp [h op hop]
  rw [run_eq, hnone, storedBy_of_not_clear _ h]
  rfl

theorem run_ofDefaults (ops : List Operation) :
    (ofDefaults defaults).run ops = ⟨defaults, Registry.empty.putAll (storedBy defaults ops)⟩ := by
  rw [run_eq]
  simp [ofDefaults]

/-- No key has two entries after any operations. -/
theorem nodup_ids_run (ops : List Operation) :
    ((ofDefaults defaults).run ops).registry.ids.Nodup := by
  rw [run_ofDefaults]
  exact (Registry.ids_putAll_empty _).1

/-- Every entry of the registry has what was stored last under its key. -/
theorem latest?_of_mem_run {ops : List Operation} {k : EndpointKey} {e : Endpoint}
    (h : (k, e) ∈ ((ofDefaults defaults).run ops).registry.entries) :
    latest? k (storedBy defaults ops) = some e := by
  have hget := Registry.get?_of_mem (nodup_ids_run defaults ops) h
  rw [run_ofDefaults, Registry.get?_putAll] at hget
  simpa [Registry.get?, Registry.empty] using hget

/-- A look-up by key finds what the history has last under the key, or else without a version. -/
theorem find?_putAll_empty (stored : List (EndpointKey × Endpoint)) (k : EndpointKey) :
    (Registry.empty.putAll stored).find? k =
      (latest? k stored).or
        (if k.version.isNull then none else latest? k.unversioned stored) := by
  have hget : ∀ l, (Registry.empty.putAll stored).get? l = latest? l stored := by
    intro l
    rw [Registry.get?_putAll]
    exact Option.or_none
  rw [Registry.find?, hget, hget]
  cases latest? k stored with
  | some e => rfl
  | none => rfl

/-- What a history has for a key was stored under the key or under the one without a version. -/
theorem stored_of_find? {stored : List (EndpointKey × Endpoint)} {k : EndpointKey} {e : Endpoint}
    (h : (Registry.empty.putAll stored).find? k = some e) :
    ∃ l, (l, e) ∈ stored ∧ (l.id = k.id ∨ l.id = k.unversioned.id) := by
  have hstored : ∀ {k : EndpointKey}, latest? k stored = some e →
      ∃ l, (l, e) ∈ stored ∧ l.id = k.id := by
    intro k hk
    obtain ⟨before, l, after, rfl, hl, -⟩ := latest?_eq_some hk
    exact ⟨l, by simp, hl⟩
  rw [find?_putAll_empty] at h
  rcases Option.or_eq_some_iff.1 h with h | ⟨-, h⟩
  · obtain ⟨l, hm, hl⟩ := hstored h
    exact ⟨l, hm, Or.inl hl⟩
  · by_cases hv : k.version.isNull
    · simp [hv] at h
    · rw [if_neg hv] at h
      obtain ⟨l, hm, hl⟩ := hstored h
      exact ⟨l, hm, Or.inr hl⟩

/-- Whatever was done to a gate, a look-up is answered from the history since the last clear: by
what was stored last under the key, or else, if a version is asked for, by what was stored last
without a version, and by nothing of another version. There are as many entries as different keys
were stored under, and a configuration that fails or passes its requests through changes nothing. A
method counts in upper case, an empty one as the one for reading, and an empty version as none. -/
theorem lookup_after_run (ops : List Operation) :
    (∀ path method version,
      ((ofDefaults defaults).run ops).registry.lookup path method version =
        (EndpointKey.parse path method version).map fun k =>
          (latest? k (storedBy defaults ops)).or
            (if k.version.isNull then none else latest? k.unversioned (storedBy defaults ops))) ∧
    (∀ path method version e,
      ((ofDefaults defaults).run ops).registry.lookup path method version = .ok (some e) →
      ∃ k l, EndpointKey.parse path method version = .ok k ∧ (l, e) ∈ storedBy defaults ops ∧
        (l.id = k.id ∨ l.id = k.unversioned.id)) ∧
    ((ofDefaults defaults).run ops).registry.size =
      ((storedBy defaults ops).map fun e => e.1.id).toFinset.card ∧
    (∀ path method api version,
      (∀ next, ((ofDefaults defaults).run ops).configure path method api version ≠
        .ok (next, .verify)) →
      (ofDefaults defaults).run (ops ++ [.configure path method api version]) =
        (ofDefaults defaults).run ops) ∧
    ∀ (path method : String) (version : Option String),
      EndpointKey.parse (.string path) (.string method) ((version.map Value.string).getD .null) =
        .ok ⟨.string path, .string (Text.upper (if method = "" then standardMethod else method)),
          match version with
          | none => .null
          | some v => if v = "" then .null else .string v⟩ := by
  refine ⟨?_, ?_, ?_, ?_, ?_⟩
  · intro path method version
    rw [run_ofDefaults, Registry.lookup_eq]
    exact congrArg (fun f => (EndpointKey.parse path method version).map f)
      (funext (find?_putAll_empty (storedBy defaults ops)))
  · intro path method version e h
    rw [run_ofDefaults, Registry.lookup_eq] at h
    obtain ⟨k, hk, hf⟩ := map_eq_ok_iff.1 h
    obtain ⟨l, hm, hl⟩ := stored_of_find? hf
    exact ⟨k, l, hk, hm, hl⟩
  · rw [run_ofDefaults]
    exact Registry.size_putAll_empty (storedBy defaults ops)
  · intro path method api version h
    rw [run_concat]
    exact perform_configure_of_idle h
  · intro path method version
    have hversion : Endpoint.normalVersion ((version.map Value.string).getD .null) =
        match version with
        | none => .null
        | some v => if v = "" then .null else .string v := by
      cases version with
      | none => rfl
      | some v =>
          by_cases hv : v = ""
          · subst hv
            rfl
          · simp [Endpoint.normalVersion, Value.orElse, Value.truthy, hv]
    rw [EndpointKey.parse_text, EndpointKey.ofText, hversion]
    rw [hversion]
    cases version with
    | none => rfl
    | some v =>
        by_cases hv : v = ""
        · simp [hv, Value.unhashable?]
        · simp [hv, Value.unhashable?]

end Run

end Gate

end ParamGate
