import ParamGate.Proofs.Gate.History
import ParamGate.Route.Router

/-!
# Registrations of routes and their failures

A registration configures its declaration for each of its verified methods and then adds one route.
The methods stand or fall together, since a declaration is accepted for all of them or for none
(`Endpoint.Accepts`), so a loop over several methods that fails has changed nothing. `Router.Adds`
lists the ways in which a registration ends; no later proof looks into its steps.

A registration that fails leaves the routes as they were. It leaves the registry as it was as well,
unless its path or its extra data are refused once the declaration is configured: then all that was
configured stays (`Router.add_failed`), as for a path that names a parameter twice
(`Router.repeated_name_stays_configured`).
-/

namespace ParamGate

/-! ## Verified methods -/

/-- Requests of this method are verified under this declaration. -/
def Endpoint.verifies (api : Value) (method : String) : Bool :=
  !(api.isNull || api.isCallable) && Text.lower method != "param"

theorem Endpoint.isVerified_text (api : Value) (method : String) :
    isVerified api (.string method) = .ok (verifies api method) := by
  rw [isVerified, verifies]
  cases api.isNull || api.isCallable with
  | true => rfl
  | false =>
      have horElse : (Value.string method).orElse (.string "") = .string method := by
        by_cases hm : method = ""
        · rw [hm]
          rfl
        · simp [Value.orElse, Value.truthy, hm]
      have hlower : Text.lower (Text.lossy (Text.codes method)) = Text.lower method := by
        rw [Text.lossy_codes]
      rw [horElse]
      exact congrArg (fun s => Except.ok (s != "param")) hlower

theorem Router.verifiedMethods_eq (api : Value) (methods : List String) :
    verifiedMethods api methods = .ok (methods.filter (Endpoint.verifies api)) := by
  induction methods with
  | nil => rfl
  | cons m methods ih =>
      rw [verifiedMethods, Endpoint.isVerified_text, ok_bind, ih, ok_bind, List.filter_cons]

/-- The methods of a registration for which requests are verified. -/
def RouteDeclaration.verified (d : RouteDeclaration) : List String :=
  (Router.methodsOf d).filter (Endpoint.verifies d.api)

theorem RouteDeclaration.verifies_of_mem {d : RouteDeclaration} {m : String}
    (h : m ∈ d.verified) : Endpoint.verifies d.api m = true :=
  (List.mem_filter.1 h).2

/-- A registration without methods has the one for reading, and its requests are verified if
something is declared. -/
theorem RouteDeclaration.verified_of_standard {d : RouteDeclaration} (hm : d.methods = [])
    (ha : (d.api.isNull || d.api.isCallable) = false) : d.verified = [standardMethod] := by
  have hverifies : Endpoint.verifies d.api standardMethod = true := by
    have h := (Endpoint.isVerified_text d.api standardMethod).symm.trans (Gate.isVerified_get ha)
    exact Except.ok.inj h
  have hmethods : Router.methodsOf d = [standardMethod] := by
    rw [Router.methodsOf, hm]
    rfl
  rw [verified, hmethods, List.filter_cons_of_pos hverifies, List.filter_nil]

/-! ## Configuring one method -/

/-- The declaration is accepted under a path and a version, for any method. -/
structure Endpoint.Accepts (path : String) (api version : Value) (defaults : Defaults) : Prop where
  declared : ∃ e,
    ofDeclaration (.string path) (.string standardMethod) api defaults version = .ok e
  hashable : (normalVersion version).unhashable? = none

/-- Configuring a declaration for a method. -/
def Gate.Operation.ofMethod (path : String) (api version : Value) (method : String) :
    Gate.Operation :=
  .configure (.string path) (.string method) api version

section Configure

variable {g : Gate} {path method : String} {api version : Value}

theorem Endpoint.Accepts.ofDeclaration_eq_ok {defaults : Defaults}
    (h : Endpoint.Accepts path api version defaults) (method : String) :
    ∃ e, Endpoint.ofDeclaration (.string path) (.string method) api defaults version = .ok e := by
  obtain ⟨e, he⟩ := h.declared
  exact ⟨_, Endpoint.ofDeclaration_method he rfl⟩

/-- An accepted declaration is stored under the key of its method. -/
theorem Gate.Operation.stores?_of_accepts {defaults : Defaults}
    (hv : Endpoint.verifies api method = true) (h : Endpoint.Accepts path api version defaults)
    {e : Endpoint}
    (he : Endpoint.ofDeclaration (.string path) (.string method) api defaults version = .ok e) :
    (ofMethod path api version method).stores? defaults =
      some (EndpointKey.ofText path method version, e) := by
  rw [ofMethod, stores?, Endpoint.isVerified_text, hv, he,
    EndpointKey.parse_text path method h.hashable]

theorem Gate.configure_of_accepts (hv : Endpoint.verifies api method = true)
    (h : Endpoint.Accepts path api version g.defaults) :
    ∃ next, g.configure (.string path) (.string method) api version = .ok (next, .verify) := by
  obtain ⟨e, he⟩ := h.ofDeclaration_eq_ok method
  rw [configure_of_verified (by rw [Endpoint.isVerified_text, hv]), he, ok_bind,
    EndpointKey.parse_text path method h.hashable]
  exact ⟨_, rfl⟩

/-- A declaration that is refused for one method is refused for every method. -/
theorem Gate.configure_of_not_accepts (hv : Endpoint.verifies api method = true)
    (h : ¬ Endpoint.Accepts path api version g.defaults) :
    ∃ fault, g.configure (.string path) (.string method) api version = .error fault := by
  rw [configure_of_verified (by rw [Endpoint.isVerified_text, hv])]
  cases he : Endpoint.ofDeclaration (.string path) (.string method) api g.defaults version with
  | error fault => exact ⟨fault, rfl⟩
  | ok e =>
      -- the declaration itself is good, so the version cannot be part of a key
      have hdeclared : ∃ e, Endpoint.ofDeclaration (.string path) (.string standardMethod) api
          g.defaults version = .ok e := ⟨_, Endpoint.ofDeclaration_method he rfl⟩
      cases hversion : (Endpoint.normalVersion version).unhashable? with
      | none => exact absurd ⟨hdeclared, hversion⟩ h
      | some type =>
          rw [ok_bind, EndpointKey.parse_text_of_unhashable path method hversion]
          exact ⟨_, rfl⟩

theorem Gate.perform_of_not_accepts (hv : Endpoint.verifies api method = true)
    (h : ¬ Endpoint.Accepts path api version g.defaults) :
    g.perform (.ofMethod path api version method) = g := by
  obtain ⟨fault, hc⟩ := configure_of_not_accepts (g := g) hv h
  apply perform_configure_of_idle
  intro next
  rw [hc]
  simp

theorem Gate.defaults_configure {path method : Value} {next : Gate} {t : Treatment}
    (h : g.configure path method api version = .ok (next, t)) : next.defaults = g.defaults := by
  rcases configure_eq_ok h with ⟨-, rfl⟩ | ⟨-, e, registry, -, -, rfl⟩
  · rfl
  · rfl

end Configure

/-! ## Configuring all methods -/

section ConfigureAll

variable {path : String} {api version : Value} {methods : List String}

/-- A declaration that is refused changes nothing, for however many methods. -/
theorem Gate.run_of_not_accepts {g : Gate} (hv : ∀ m ∈ methods, Endpoint.verifies api m = true)
    (h : ¬ Endpoint.Accepts path api version g.defaults) :
    g.run (methods.map (Operation.ofMethod path api version)) = g := by
  induction methods with
  | nil => rfl
  | cons m methods ih =>
      rw [List.map_cons, run, List.foldl_cons,
        perform_of_not_accepts (hv m List.mem_cons_self) h]
      exact ih fun m' hm' => hv m' (List.mem_cons_of_mem m hm')

/-- Configuring all methods leaves the gate that the single configurations leave, whether or not it
comes to its end. -/
theorem Router.configureAll_gate (g : Gate)
    (hv : ∀ m ∈ methods, Endpoint.verifies api m = true) :
    (configureAll path api version g methods).1 =
      g.run (methods.map (Gate.Operation.ofMethod path api version)) := by
  induction methods generalizing g with
  | nil => rfl
  | cons m methods ih =>
      by_cases h : Endpoint.Accepts path api version g.defaults
      · obtain ⟨next, hc⟩ := Gate.configure_of_accepts (hv m List.mem_cons_self) h
        have hnext : g.perform (.ofMethod path api version m) = next := by
          simp only [Gate.perform, Gate.Operation.ofMethod, hc]
        rw [configureAll, hc, List.map_cons, Gate.run, List.foldl_cons, hnext]
        exact ih next fun m' hm' => hv m' (List.mem_cons_of_mem m hm')
      -- the loop ends at its first method, and the methods behind it would change nothing either
      · obtain ⟨fault, hc⟩ :=
          Gate.configure_of_not_accepts (g := g) (hv m List.mem_cons_self) h
        rw [configureAll, hc, Gate.run_of_not_accepts hv h]

theorem Router.configureAll_of_accepts {g : Gate}
    (hv : ∀ m ∈ methods, Endpoint.verifies api m = true)
    (h : Endpoint.Accepts path api version g.defaults) :
    (configureAll path api version g methods).2 = .ok () := by
  induction methods generalizing g with
  | nil => rfl
  | cons m methods ih =>
      obtain ⟨next, hc⟩ := Gate.configure_of_accepts (hv m List.mem_cons_self) h
      rw [configureAll, hc]
      apply ih fun m' hm' => hv m' (List.mem_cons_of_mem m hm')
      rw [Gate.defaults_configure hc]
      exact h

/-- A loop over several methods fails at the first of them or not at all. -/
theorem Router.configureAll_eq_error {g g' : Gate} {fault : Fault}
    (hv : ∀ m ∈ methods, Endpoint.verifies api m = true)
    (h : configureAll path api version g methods = (g', .error fault)) :
    g' = g ∧ ¬ Endpoint.Accepts path api version g.defaults := by
  have hrefused : ¬ Endpoint.Accepts path api version g.defaults := by
    intro ha
    have hok := configureAll_of_accepts hv ha
    rw [h] at hok
    simp at hok
  refine ⟨?_, hrefused⟩
  cases methods with
  | nil => simp [configureAll] at h
  | cons m methods =>
      obtain ⟨other, hc⟩ :=
        Gate.configure_of_not_accepts (g := g) (hv m List.mem_cons_self) hrefused
      rw [configureAll, hc] at h
      exact (Prod.mk.inj h).1.symm

/-- A loop that comes to its end found the declaration accepted, if it had a method. -/
theorem Router.accepts_of_configureAll {g g' : Gate}
    (hv : ∀ m ∈ methods, Endpoint.verifies api m = true) (hne : methods ≠ [])
    (h : configureAll path api version g methods = (g', .ok ())) :
    Endpoint.Accepts path api version g.defaults := by
  by_contra hrefused
  cases methods with
  | nil => exact hne rfl
  | cons m methods =>
      obtain ⟨fault, hc⟩ :=
        Gate.configure_of_not_accepts (g := g) (hv m List.mem_cons_self) hrefused
      rw [configureAll, hc] at h
      simp at h

end ConfigureAll

/-! ## How a registration ends -/

/-- What a registration does to a gate: it configures its declaration for each verified method, if
its version can be written into its extra data. -/
def RouteDeclaration.operations (front : String) (d : RouteDeclaration) : List Gate.Operation :=
  match Router.withVersion d.extra d.version with
  | .ok _ => d.verified.map (Gate.Operation.ofMethod (front ++ d.path) d.api d.version)
  | .error _ => []

/-- The endpoint is what the registration itself declares, for one of its verified methods. -/
def RouteDeclaration.Declares (defaults : Defaults) (front : String) (d : RouteDeclaration)
    (e : Endpoint) : Prop :=
  ∃ m ∈ d.verified, Endpoint.ofDeclaration (.string (front ++ d.path)) (.string m) d.api defaults
    d.version = .ok e

namespace Router

/-- What becomes of a router and what is reported when a route is registered. -/
inductive Adds (r : Router) (d : RouteDeclaration) : Router → Except Fault Route → Prop
  /-- The version cannot be written into the extra data. -/
  | unwritten {fault : Fault} : withVersion d.extra d.version = .error fault →
      Adds r d r (.error fault)
  /-- The declaration is refused. -/
  | undeclared {extra : Value} {fault : Fault} : withVersion d.extra d.version = .ok extra →
      ¬ Endpoint.Accepts (r.front ++ d.path) d.api d.version r.gate.defaults →
      Adds r d r (.error fault)
  /-- The declaration is configured, but there can be no such route. -/
  | unplaced {extra : Value} {g : Gate} {fault : Fault} :
      withVersion d.extra d.version = .ok extra →
      configureAll (r.front ++ d.path) d.api d.version r.gate d.verified = (g, .ok ()) →
      makeRoute d (r.front ++ d.path) (methodsOf d) d.verified extra = .error fault →
      Adds r d { r with gate := g } (.error fault)
  | placed {extra : Value} {g : Gate} {route : Route} :
      withVersion d.extra d.version = .ok extra →
      configureAll (r.front ++ d.path) d.api d.version r.gate d.verified = (g, .ok ()) →
      makeRoute d (r.front ++ d.path) (methodsOf d) d.verified extra = .ok route →
      Adds r d { r with gate := g, routes := r.routes ++ [route] } (.ok route)

section Add

variable {r r' : Router} {d : RouteDeclaration}

theorem adds_add (r : Router) (d : RouteDeclaration) : Adds r d (r.add d).1 (r.add d).2 := by
  have hv : ∀ m ∈ d.verified, Endpoint.verifies d.api m = true :=
    fun m hm => RouteDeclaration.verifies_of_mem hm
  unfold add
  simp only [verifiedMethods_eq]
  cases hextra : withVersion d.extra d.version with
  | error fault => exact .unwritten hextra
  | ok extra =>
      simp only
      rcases hc : configureAll (r.front ++ d.path) d.api d.version r.gate d.verified with
        ⟨g, outcome⟩
      have hc' := hc
      unfold RouteDeclaration.verified at hc'
      rw [hc']
      cases outcome with
      | error fault =>
          -- a loop that fails has configured nothing, so the router is as it was
          obtain ⟨rfl, hrefused⟩ := configureAll_eq_error hv hc
          exact .undeclared hextra hrefused
      | ok u =>
          simp only
          have hmake : makeRoute d (r.front ++ d.path) (methodsOf d)
              ((methodsOf d).filter (Endpoint.verifies d.api)) extra =
              makeRoute d (r.front ++ d.path) (methodsOf d) d.verified extra := rfl
          rw [hmake]
          cases hroute : makeRoute d (r.front ++ d.path) (methodsOf d) d.verified extra with
          | error fault => exact .unplaced hextra hc hroute
          | ok route => exact .placed hextra hc hroute

theorem adds_of_add {outcome : Except Fault Route} (h : r.add d = (r', outcome)) :
    Adds r d r' outcome := by
  have hadds := adds_add r d
  rwa [h] at hadds

theorem front_add (r : Router) (d : RouteDeclaration) : (r.add d).1.front = r.front := by
  have h := adds_add r d
  generalize (r.add d).1 = r', (r.add d).2 = outcome at h ⊢
  cases h with
  | unwritten _ => rfl
  | undeclared _ _ => rfl
  | unplaced _ _ _ => rfl
  | placed _ _ _ => rfl

/-- However a registration ends, the gate is the one that its configurations leave. -/
theorem gate_add (r : Router) (d : RouteDeclaration) :
    (r.add d).1.gate = r.gate.run (d.operations r.front) := by
  have hv : ∀ m ∈ d.verified, Endpoint.verifies d.api m = true :=
    fun m hm => RouteDeclaration.verifies_of_mem hm
  have hall {g : Gate} {extra : Value} (hextra : withVersion d.extra d.version = .ok extra)
      (hc : configureAll (r.front ++ d.path) d.api d.version r.gate d.verified = (g, .ok ())) :
      g = r.gate.run (d.operations r.front) := by
    rw [RouteDeclaration.operations, hextra, ← configureAll_gate r.gate hv, hc]
  have h := adds_add r d
  generalize (r.add d).1 = r', (r.add d).2 = outcome at h ⊢
  cases h with
  | unwritten hextra => rw [RouteDeclaration.operations, hextra]; rfl
  | undeclared hextra hrefused =>
      rw [RouteDeclaration.operations, hextra]
      exact (Gate.run_of_not_accepts hv hrefused).symm
  | unplaced hextra hc _ => exact hall hextra hc
  | placed hextra hc _ => exact hall hextra hc

/-- What is known of the route that a registration adds. -/
structure Placed (front : String) (defaults : Defaults) (d : RouteDeclaration) (route : Route) :
    Prop where
  path : route.path = front ++ d.path
  version : ∃ extra, withVersion d.extra d.version = .ok extra ∧
    versionOf extra = .ok route.version
  dependencies : route.dependencies = dependenciesOf d d.verified
  accepted : d.verified ≠ [] → Endpoint.Accepts (front ++ d.path) d.api d.version defaults

theorem placed_of_add {route : Route} (h : (r.add d).2 = .ok route) :
    Placed r.front r.gate.defaults d route := by
  have hadds := adds_add r d
  rw [h] at hadds
  generalize (r.add d).1 = r' at hadds
  cases hadds with
  | @placed extra g _ hextra hc hroute =>
      obtain ⟨template, -, hroute⟩ := bind_eq_ok_iff.1 hroute
      obtain ⟨version, hversion, hroute⟩ := bind_eq_ok_iff.1 hroute
      obtain rfl := Except.ok.inj hroute
      have hv : ∀ m ∈ d.verified, Endpoint.verifies d.api m = true :=
        fun m hm => RouteDeclaration.verifies_of_mem hm
      exact ⟨rfl, ⟨extra, hextra, hversion⟩, rfl, fun hne => accepts_of_configureAll hv hne hc⟩

/-- A registration adds its route behind the others if it succeeds, and none if it fails. -/
theorem routes_add (r : Router) (d : RouteDeclaration) :
    (r.add d).1.routes = r.routes ++ (r.add d).2.toOption.toList := by
  have h := adds_add r d
  generalize (r.add d).1 = r', (r.add d).2 = outcome at h ⊢
  cases h with
  | unwritten _ => exact (List.append_nil _).symm
  | undeclared _ _ => exact (List.append_nil _).symm
  | unplaced _ _ _ => exact (List.append_nil _).symm
  | placed _ _ _ => rfl

end Add

end Router

/-! ## What a registration stores -/

section Stores

variable {defaults : Defaults} {front : String} {d : RouteDeclaration}

theorem Gate.Operation.stores?_ofMethod_eq_some {path method : String} {api version : Value}
    {e : EndpointKey × Endpoint}
    (h : (ofMethod path api version method).stores? defaults = some e) :
    e.1 = EndpointKey.ofText path method version ∧
      Endpoint.ofDeclaration (.string path) (.string method) api defaults version = .ok e.2 := by
  obtain ⟨hdeclared, hkey⟩ := stores?_configure_eq_some h
  refine ⟨?_, hdeclared⟩
  cases hversion : (Endpoint.normalVersion version).unhashable? with
  | none =>
      rw [EndpointKey.parse_text path method hversion] at hkey
      exact (Except.ok.inj hkey).symm
  | some type =>
      rw [EndpointKey.parse_text_of_unhashable path method hversion] at hkey
      simp at hkey

/-- What a registration stores, and under which keys. -/
def RouteDeclaration.stores (defaults : Defaults) (front : String) (d : RouteDeclaration) :
    List (EndpointKey × Endpoint) :=
  (d.operations front).filterMap (Gate.Operation.stores? defaults)

theorem RouteDeclaration.operations_isClear {op : Gate.Operation} (h : op ∈ d.operations front) :
    op.isClear = false := by
  unfold operations at h
  split at h
  · obtain ⟨m, -, rfl⟩ := List.mem_map.1 h
    rfl
  · simp at h

/-- Everything that a registration stores is declared by it and stands under the key of a verified
method. -/
theorem RouteDeclaration.mem_stores {e : EndpointKey × Endpoint}
    (h : e ∈ d.stores defaults front) :
    ∃ m ∈ d.verified, e.1 = EndpointKey.ofText (front ++ d.path) m d.version ∧
      Endpoint.ofDeclaration (.string (front ++ d.path)) (.string m) d.api defaults d.version =
        .ok e.2 := by
  obtain ⟨op, hop, hs⟩ := List.mem_filterMap.1 h
  unfold operations at hop
  split at hop
  · obtain ⟨m, hm, rfl⟩ := List.mem_map.1 hop
    obtain ⟨hkey, hdeclared⟩ := Gate.Operation.stores?_ofMethod_eq_some hs
    exact ⟨m, hm, hkey, hdeclared⟩
  · simp at hop

/-- A registration whose declaration is accepted stores something for each verified method. -/
theorem RouteDeclaration.stores_of_accepts {extra : Value}
    (hextra : Router.withVersion d.extra d.version = .ok extra)
    (h : Endpoint.Accepts (front ++ d.path) d.api d.version defaults) {m : String}
    (hm : m ∈ d.verified) :
    ∃ e, (EndpointKey.ofText (front ++ d.path) m d.version, e) ∈ d.stores defaults front := by
  obtain ⟨e, he⟩ := h.ofDeclaration_eq_ok m
  refine ⟨e, List.mem_filterMap.2 ⟨.ofMethod (front ++ d.path) d.api d.version m, ?_, ?_⟩⟩
  · rw [operations, hextra]
    exact List.mem_map.2 ⟨m, hm, rfl⟩
  · exact Gate.Operation.stores?_of_accepts (verifies_of_mem hm) h he

theorem Router.registry_add (r : Router) (d : RouteDeclaration) :
    (r.add d).1.gate =
      { r.gate with
        registry := r.gate.registry.putAll (d.stores r.gate.defaults r.front) } := by
  rw [gate_add, Gate.run_of_not_clear _ fun op hop => RouteDeclaration.operations_isClear hop]
  rfl

end Stores

/-! ## Registrations that fail -/

namespace Router

/-- The registration fails after its declaration was configured for at least one method: its path is
refused, or its extra data cannot hold a version. -/
structure RefusedLate (r : Router) (d : RouteDeclaration) (fault : Fault) : Prop where
  verified : d.verified ≠ []
  accepted : Endpoint.Accepts (r.front ++ d.path) d.api d.version r.gate.defaults
  refused : ∃ extra, withVersion d.extra d.version = .ok extra ∧
    (Route.Template.parse (r.front ++ d.path) = .error fault ∨
      ∃ t, Route.Template.parse (r.front ++ d.path) = .ok t ∧ versionOf extra = .error fault)

section Failure

variable {r r' : Router} {d : RouteDeclaration} {fault : Fault}

theorem makeRoute_eq_error {path : String} {methods verified : List String} {extra : Value} :
    makeRoute d path methods verified extra = .error fault ↔
      Route.Template.parse path = .error fault ∨
        ∃ t, Route.Template.parse path = .ok t ∧ versionOf extra = .error fault := by
  unfold makeRoute
  rw [bind_eq_error_iff]
  apply or_congr_right
  apply exists_congr
  intro t
  apply and_congr_right
  intro _
  rw [bind_eq_error_iff]
  simp

/-- What a registration has stored is found under the path, the version and every verified
method. -/
theorem lookup_stores {defaults : Defaults} {front : String} {extra : Value}
    (hextra : withVersion d.extra d.version = .ok extra)
    (ha : Endpoint.Accepts (front ++ d.path) d.api d.version defaults) {m : String}
    (hm : m ∈ d.verified) (registry : Registry Endpoint) :
    ∃ e, d.Declares defaults front e ∧
      (registry.putAll (d.stores defaults front)).lookup (.string (front ++ d.path)) (.string m)
        d.version = .ok (some e) := by
  obtain ⟨own, hown⟩ := RouteDeclaration.stores_of_accepts hextra ha hm
  have hdeclared : ∀ e ∈ d.stores defaults front,
      e.1.id = (EndpointKey.ofText (front ++ d.path) m d.version).id →
      d.Declares defaults front e.2 := by
    intro e he _
    obtain ⟨m', hm', -, hd⟩ := RouteDeclaration.mem_stores he
    exact ⟨m', hm', hd⟩
  obtain ⟨e, hlatest, he⟩ := latest?_of_forall ⟨_, hown, rfl⟩ hdeclared
  refine ⟨e, he, ?_⟩
  rw [Registry.lookup_eq, EndpointKey.parse_text _ _ ha.hashable, map_ok, Registry.find?,
    Registry.get?_putAll, hlatest]
  rfl

/-- A registration that fails adds no route. It also leaves the gate as it was, unless it is refused
after its declaration was configured; then everything that it declares stays registered, for all of
its verified methods, as if it had succeeded. -/
theorem add_failed (h : r.add d = (r', .error fault)) :
    r'.routes = r.routes ∧ r'.front = r.front ∧
      (¬ r.RefusedLate d fault → r' = r) ∧
      (r.RefusedLate d fault →
        r'.gate = { r.gate with
          registry := r.gate.registry.putAll (d.stores r.gate.defaults r.front) } ∧
        ∀ m ∈ d.verified, ∃ e, d.Declares r.gate.defaults r.front e ∧
          r'.gate.registry.lookup (.string (r.front ++ d.path)) (.string m) d.version =
            .ok (some e)) := by
  have hadds := adds_of_add h
  have hgate : r'.gate = { r.gate with
      registry := r.gate.registry.putAll (d.stores r.gate.defaults r.front) } := by
    have hadd := registry_add r d
    rwa [h] at hadd
  refine ⟨?_, ?_, ?_, ?_⟩
  · have hroutes := routes_add r d
    rw [h] at hroutes
    simpa [Except.toOption] using hroutes
  · have hfront := front_add r d
    rwa [h] at hfront
  · intro hlate
    cases hadds with
    | unwritten _ => rfl
    | undeclared _ _ => rfl
    | @unplaced extra g _ hextra hc hroute =>
        by_cases hne : d.verified = []
        · rw [hne, configureAll] at hc
          rw [← (Prod.mk.inj hc).1]
        -- with a verified method this is just the late refusal that was ruled out
        · have hv : ∀ m ∈ d.verified, Endpoint.verifies d.api m = true :=
            fun m hm => RouteDeclaration.verifies_of_mem hm
          exact absurd ⟨hne, accepts_of_configureAll hv hne hc, extra, hextra,
            makeRoute_eq_error.1 hroute⟩ hlate
  · intro hlate
    refine ⟨hgate, ?_⟩
    intro m hm
    obtain ⟨extra, hextra, -⟩ := hlate.refused
    obtain ⟨e, he, hlookup⟩ := lookup_stores hextra hlate.accepted hm r.gate.registry
    refine ⟨e, he, ?_⟩
    rw [hgate]
    exact hlookup

/-! ### A path that names a parameter twice -/

/-- The router without a front and without routes. -/
def bare (defaults : Defaults) : Router := ⟨.ofDefaults defaults, "", []⟩

/-- A path with two parameters of one name. -/
def repeatedPath : String := "/a/\x7bx\x7d/\x7bx\x7d"

/-- A route for reading with one bounded number, no version and that path. -/
def repeatedRoute : RouteDeclaration where
  index := 0
  path := repeatedPath
  api := .map (Gate.boundedFields 3)
  version := .null
  methods := []
  extra := .null
  dependencies := []
  handler := .arguments none

theorem repeatedRoute_fails :
    (∃ fault, ((bare .standard).add repeatedRoute).2 = .error fault) ∧
      ((bare .standard).add repeatedRoute).1.gate.registry.size = 1 := by
  have hrun : (((bare .standard).add repeatedRoute).2.isOk,
      ((bare .standard).add repeatedRoute).1.gate.registry.size) = (false, 1) := by
    decide +kernel
  obtain ⟨hfails, hsize⟩ := Prod.mk.inj hrun
  refine ⟨?_, hsize⟩
  cases h : ((bare .standard).add repeatedRoute).2 with
  | ok route => simp [h, Except.isOk, Except.toBool] at hfails
  | error fault => exact ⟨fault, rfl⟩

/-- The registration fails because its path is refused, and its endpoint stays registered. -/
theorem add_failed_repeated :
    ∃ r' fault, (bare .standard).add repeatedRoute = (r', .error fault) ∧ r'.routes = [] ∧
      (bare .standard).RefusedLate repeatedRoute fault ∧
      ∃ e, r'.gate.registry.lookup (.string ((bare .standard).front ++ repeatedRoute.path))
        (.string "GET") repeatedRoute.version = .ok (some e) := by
  obtain ⟨⟨fault, hfault⟩, hsize⟩ := repeatedRoute_fails
  generalize hr' : ((bare .standard).add repeatedRoute).1 = r' at hsize
  have h : (bare .standard).add repeatedRoute = (r', .error fault) := Prod.ext hr' hfault
  obtain ⟨hroutes, -, hearly, hlate⟩ := add_failed h
  have hrefused : (bare .standard).RefusedLate repeatedRoute fault := by
    by_contra hn
    -- otherwise the registry would still be empty
    rw [hearly hn] at hsize
    exact absurd hsize (by decide)
  have hmem : "GET" ∈ repeatedRoute.verified := by
    rw [RouteDeclaration.verified_of_standard rfl rfl]
    exact List.mem_singleton.2 rfl
  obtain ⟨e, -, hlookup⟩ := (hlate hrefused).2 "GET" hmem
  exact ⟨r', fault, h, hroutes, hrefused, e, hlookup⟩

/-- A registration that fails can leave an endpoint in a registry that had none. -/
theorem repeated_name_stays_configured :
    (∃ fault, ((bare .standard).add repeatedRoute).2 = .error fault) ∧
      (bare .standard).gate.registry.size = 0 ∧
      ((bare .standard).add repeatedRoute).1.gate.registry.size = 1 := by
  obtain ⟨hfails, hsize⟩ := repeatedRoute_fails
  exact ⟨hfails, rfl, hsize⟩

end Failure
end Router
end ParamGate
