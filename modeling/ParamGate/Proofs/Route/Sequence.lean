import ParamGate.Proofs.Route.Registration

/-!
# Registrations in sequence

After any registrations, of which some may have failed, the registry of a router has what they
stored, the latest for each key, and each route stems from one of them. What is found under a key is
what the last registration with that key declares (`RouteDeclaration.latest?_of_last`,
`RouteDeclaration.latest?_of_later`).
-/

namespace ParamGate

/-! ## Registrations in sequence -/

namespace RouteDeclaration

variable (defaults : Defaults) (front : String)

/-- The key under which a registration is stored for a method. -/
def key (d : RouteDeclaration) (m : String) : EndpointKey :=
  EndpointKey.ofText (front ++ d.path) m d.version

/-- Two registrations have no key in common. -/
def Apart (d d' : RouteDeclaration) : Prop :=
  ∀ m ∈ d.verified, ∀ m' ∈ d'.verified, (d.key front m).id ≠ (d'.key front m').id

/-- The registration stores something under a key. -/
def StoresUnder (d : RouteDeclaration) (k : EndpointKey) : Prop :=
  ∃ e ∈ d.stores defaults front, e.1.id = k.id

/-- Everything that registrations store, oldest first. -/
def allStores (ds : List RouteDeclaration) : List (EndpointKey × Endpoint) :=
  ds.flatMap (stores defaults front)

theorem allStores_append (ds more : List RouteDeclaration) :
    allStores defaults front (ds ++ more) =
      allStores defaults front ds ++ allStores defaults front more :=
  List.flatMap_append

end RouteDeclaration

namespace Router

/-- The router after registrations in order, whether they succeed or fail. -/
def addAll (r : Router) (ds : List RouteDeclaration) : Router :=
  ds.foldl (fun r d => (r.add d).1) r

theorem addAll_concat (r : Router) (ds : List RouteDeclaration) (d : RouteDeclaration) :
    r.addAll (ds ++ [d]) = ((r.addAll ds).add d).1 := by
  simp [addAll]

/-- Registrations leave the front and the defaults, and the registry has all that they store. -/
theorem addAll_eq (r : Router) (ds : List RouteDeclaration) :
    (r.addAll ds).front = r.front ∧
      (r.addAll ds).gate = { r.gate with
        registry :=
          r.gate.registry.putAll (RouteDeclaration.allStores r.gate.defaults r.front ds) } := by
  induction ds using List.reverseRecOn with
  | nil => exact ⟨rfl, rfl⟩
  | append_singleton ds d ih =>
      obtain ⟨hfront, hgate⟩ := ih
      rw [addAll_concat]
      refine ⟨(front_add _ d).trans hfront, ?_⟩
      have hstores : RouteDeclaration.allStores r.gate.defaults r.front [d] =
          d.stores r.gate.defaults r.front := List.flatMap_singleton _ _
      rw [registry_add, hfront, hgate, RouteDeclaration.allStores_append, hstores,
        Registry.putAll_append]

/-- Every route stems from one of the registrations. -/
theorem mem_routes_addAll {r : Router} {ds : List RouteDeclaration} {route : Route}
    (h : route ∈ (r.addAll ds).routes) :
    route ∈ r.routes ∨ ∃ before d after, ds = before ++ d :: after ∧
      ((r.addAll before).add d).2 = .ok route := by
  induction ds using List.reverseRecOn with
  | nil => exact Or.inl h
  | append_singleton ds d ih =>
      rw [addAll_concat, routes_add, List.mem_append] at h
      rcases h with h | h
      · rcases ih h with h | ⟨before, d', after, rfl, hadd⟩
        · exact Or.inl h
        · exact Or.inr ⟨before, d', after ++ [d], by simp, hadd⟩
      · cases hadd : ((r.addAll ds).add d).2 with
        | error fault => simp [hadd, Except.toOption] at h
        | ok added =>
            obtain rfl : route = added := by simpa [hadd, Except.toOption] using h
            exact Or.inr ⟨ds, d, [], rfl, hadd⟩

/-- The route is that of the registration behind those before it, up to a further front. -/
def AddsRoute (start : Router) (before : List RouteDeclaration) (d : RouteDeclaration)
    (r : Route) : Prop :=
  ∃ added, ((start.addAll before).add d).2 = .ok added ∧ r = { added with template := r.template }

end Router

/-! ## What is stored last -/

namespace RouteDeclaration

variable {defaults : Defaults} {front : String} {k : EndpointKey}

/-- If later registrations store under a key, what is found is what one of them declares. -/
theorem latest?_of_later (before : List RouteDeclaration) {after : List RouteDeclaration}
    (h : ∃ d ∈ after, d.StoresUnder defaults front k) :
    ∃ d ∈ after, d.StoresUnder defaults front k ∧
      ∃ e, latest? k (allStores defaults front (before ++ after)) = some e ∧
        d.Declares defaults front e := by
  have hmem : ∃ s ∈ allStores defaults front after, s.1.id = k.id := by
    obtain ⟨d, hd, s, hs, hk⟩ := h
    exact ⟨s, List.mem_flatMap.2 ⟨d, hd, hs⟩, hk⟩
  have hall : ∀ s ∈ allStores defaults front after, s.1.id = k.id →
      ∃ d ∈ after, d.StoresUnder defaults front k ∧ d.Declares defaults front s.2 := by
    intro s hs hk
    obtain ⟨d, hd, hs⟩ := List.mem_flatMap.1 hs
    obtain ⟨m, hm, -, hdeclared⟩ := mem_stores hs
    exact ⟨d, hd, ⟨s, hs, hk⟩, m, hm, hdeclared⟩
  obtain ⟨e, hlatest, d, hd, hstores, hdeclares⟩ := latest?_of_forall
    (P := fun e => ∃ d ∈ after, d.StoresUnder defaults front k ∧ d.Declares defaults front e)
    hmem hall
  refine ⟨d, hd, hstores, e, ?_, hdeclares⟩
  rw [allStores_append, latest?_append, hlatest]
  rfl

/-- A registration that nothing later replaces is the one found. -/
theorem latest?_of_last {before after : List RouteDeclaration} {d : RouteDeclaration}
    (hd : d.StoresUnder defaults front k)
    (hafter : ∀ d' ∈ after, ¬ d'.StoresUnder defaults front k) :
    ∃ e, latest? k (allStores defaults front (before ++ d :: after)) = some e ∧
      d.Declares defaults front e := by
  obtain ⟨d', hd', hstores, e, hlatest, hdeclares⟩ :=
    latest?_of_later before ⟨d, List.mem_cons_self, hd⟩
  rcases List.mem_cons.1 hd' with rfl | hlater
  · exact ⟨e, hlatest, hdeclares⟩
  · exact absurd hstores (hafter d' hlater)

theorem latest?_of_none {ds : List RouteDeclaration}
    (h : ∀ d ∈ ds, ¬ d.StoresUnder defaults front k) :
    latest? k (allStores defaults front ds) = none := by
  rw [latest?_eq_none_iff]
  intro s hs hk
  obtain ⟨d, hd, hs⟩ := List.mem_flatMap.1 hs
  exact h d hd ⟨s, hs, hk⟩

/-- A registration stores under its own keys only. -/
theorem exists_key_of_storesUnder {d : RouteDeclaration} (h : d.StoresUnder defaults front k) :
    ∃ m ∈ d.verified, (d.key front m).id = k.id := by
  obtain ⟨s, hs, hk⟩ := h
  obtain ⟨m, hm, hkey, -⟩ := mem_stores hs
  refine ⟨m, hm, ?_⟩
  rw [← hk, hkey]
  rfl

/-- Registrations for different versions have no key in common. -/
theorem apart_of_version {d d' : RouteDeclaration}
    (h : (Endpoint.normalVersion d.version).key ≠ (Endpoint.normalVersion d'.version).key) :
    Apart front d d' := by
  intro m _ m' _ hk
  exact h (Prod.mk.inj (Prod.mk.inj hk).2).2

theorem Apart.not_storesUnder {d d' : RouteDeclaration} (h : Apart front d d') {m : String}
    (hm : m ∈ d.verified) : ¬ d'.StoresUnder defaults front (d.key front m) := by
  intro hs
  obtain ⟨m', hm', hk⟩ := exists_key_of_storesUnder hs
  exact h m hm m' hm' hk.symm

end RouteDeclaration

end ParamGate
