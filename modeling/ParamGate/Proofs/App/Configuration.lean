import ParamGate.Proofs.App.Routes
import ParamGate.Proofs.Gate.Ruling
import ParamGate.Proofs.Route.Sequence
import ParamGate.Proofs.Text.Case

/-!
# Which declaration verifies a request

A request goes to the first route that matches, by the version in the extra data of the route; the
gate then looks the endpoint up by path, method and that version. A declaration is stored under the
version that was given to the registration. Where the two versions are the same, and no later
registration has the same key, a route is verified by its own declaration. Where the version stands
in the extra data alone, the declaration is stored without a version, and it is the one used only if
no registration has the path and the method under that version (`App.configuration_of_route`,
`extra_version_uses_other`).
-/

namespace ParamGate

/-! ## The version of a route -/

theorem Router.versionOf_withVersion {extra version written : Value}
    (hv : version.truthy = true) (h : withVersion extra version = .ok written) :
    versionOf written = .ok version := by
  rw [withVersion, if_pos hv] at h
  split at h
  · rename_i entries _
    obtain rfl := Except.ok.inj h
    have hput : (Table.put entries versionName version).get? versionName = some version :=
      Table.get?_put_of_eq entries version rfl
    have hne : Table.put entries versionName version ≠ [] := by
      intro he
      rw [he] at hput
      simp [Table.get?] at hput
    have htruthy : (Value.map (Table.put entries versionName version)).truthy = true := by
      simpa [Value.truthy] using hne
    rw [versionOf, Value.orElse_of_truthy htruthy]
    simp [hput]
  · simp at h

/-- The version that a registration is given is that of its route, or the route has none. -/
def RouteDeclaration.SameVersion (d : RouteDeclaration) (r : Route) : Prop :=
  d.version.truthy = true ∨ r.version.truthy = false

theorem RouteDeclaration.not_sameVersion_iff {d : RouteDeclaration} {r : Route} :
    ¬ d.SameVersion r ↔ d.version.truthy = false ∧ r.version.truthy = true := by
  rw [SameVersion, not_or, Bool.not_eq_true, Bool.not_eq_false]

theorem Value.key_ne_null_of_truthy {v : Value} (h : v.truthy = true) : v.key ≠ .null := by
  cases v with
  | null => simp [truthy] at h
  | float x =>
      cases hx : x.position? with
      | none => cases x <;> simp [key, Key.ofBinary64, hx]
      | some p => cases x <;> simp [key, Key.ofBinary64, hx]
  | tuple items => cases items <;> simp [key, keyItems]
  | definition d => simp [key]
  | _ => simp [key]

section Placed

variable {front : String} {defaults : Defaults} {d : RouteDeclaration} {r : Route}

theorem Router.Placed.version_eq (h : Placed front defaults d r) (hv : d.version.truthy = true) :
    r.version = d.version := by
  obtain ⟨extra, hextra, hversion⟩ := h.version
  rw [versionOf_withVersion hv hextra] at hversion
  exact (Except.ok.inj hversion).symm

theorem Router.Placed.normalVersion_eq (h : Placed front defaults d r) (hs : d.SameVersion r) :
    Endpoint.normalVersion r.version = Endpoint.normalVersion d.version := by
  cases hv : d.version.truthy with
  | true => rw [h.version_eq hv]
  | false =>
      rcases hs with hs | hs
      · rw [hv] at hs
        simp at hs
      · rw [Endpoint.normalVersion_of_falsy hs, Endpoint.normalVersion_of_falsy hv]

theorem Router.Placed.storesUnder (h : Placed front defaults d r) {m : String}
    (hm : m ∈ d.verified) : d.StoresUnder defaults front (d.key front m) := by
  obtain ⟨extra, hextra, -⟩ := h.version
  obtain ⟨e, he⟩ := RouteDeclaration.stores_of_accepts hextra
    (h.accepted (List.ne_nil_of_mem hm)) hm
  exact ⟨_, he, rfl⟩

end Placed

/-! ## The key that a request asks for -/

theorem EndpointKey.ofText_upper (path method : String) (version : Value) :
    ofText path (Text.upper method) version = ofText path method version := by
  by_cases hm : method = ""
  · rw [hm, (Text.upper_eq_empty_iff "").2 rfl]
  · have hu : ¬ Text.upper method = "" := fun h => hm ((Text.upper_eq_empty_iff method).1 h)
    rw [ofText, ofText, if_neg hm, if_neg hu, Text.upper_upper]

/-- The gate asks for the key of the path, the method and the version of the route. -/
theorem Inbound.parse_ofValues {path method : String} {version : Value} {sources : Table Value}
    {inbound : Inbound}
    (h : ofValues (.string path) (.string method) version (.map sources) = .ok inbound) :
    EndpointKey.parse inbound.path inbound.method inbound.version =
      EndpointKey.parse (.string path) (.string method) version := by
  rw [ofValues_text] at h
  obtain rfl := Except.ok.inj h
  have hstandard : standardMethod ≠ "" := by decide
  have hgiven : EndpointKey.ofText path (if method = "" then standardMethod else method) version =
      EndpointKey.ofText path method version := by
    by_cases hm : method = ""
    · rw [EndpointKey.ofText, EndpointKey.ofText, if_pos hm, if_neg hstandard]
    · rw [if_neg hm]
  have hnormal := Endpoint.normalVersion_normalVersion version
  have hkey : EndpointKey.ofText path
      (Text.upper (if method = "" then standardMethod else method))
      (Endpoint.normalVersion version) = EndpointKey.ofText path method version := by
    rw [EndpointKey.ofText_upper, ← hgiven, EndpointKey.ofText, EndpointKey.ofText, hnormal]
  show EndpointKey.parse (.string path)
    (.string (Text.upper (if method = "" then standardMethod else method)))
    (Endpoint.normalVersion version) = _
  generalize Text.upper (if method = "" then standardMethod else method) = upper at hkey ⊢
  cases hu : (Endpoint.normalVersion version).unhashable? with
  | none =>
      rw [EndpointKey.parse_text path method hu, ← hkey]
      exact EndpointKey.parse_text path upper (by rw [hnormal, hu])
  | some type =>
      rw [EndpointKey.parse_text_of_unhashable path method hu]
      exact EndpointKey.parse_text_of_unhashable path upper (by rw [hnormal, hu])

/-! ## What is found -/

/-- The gate verifies a request by what a registration declares. -/
def Gate.Uses (g : Gate) (defaults : Defaults) (front : String) (inbound : Inbound)
    (d : RouteDeclaration) : Prop :=
  ∃ e, g.Finds inbound e ∧ d.Declares defaults front e

/-- Requests of the route are looked up under the key of its registration: the two have the same
version, or nothing is stored under the key that the requests ask for. -/
def RouteDeclaration.Reached (defaults : Defaults) (front : String) (ds : List RouteDeclaration)
    (d : RouteDeclaration) (r : Route) (asked : EndpointKey) : Prop :=
  d.SameVersion r ∨ asked.version.unhashable? = none ∧
    ∀ d' ∈ ds, ¬ d'.StoresUnder defaults front asked

/-- Which declaration verifies a request of a route that the registration `d` added among others,
for the method `m`. The request asks for the key `asked`. -/
structure Configured (defaults : Defaults) (front : String) (before : List RouteDeclaration)
    (d : RouteDeclaration) (after : List RouteDeclaration) (m : String) (r : Route)
    (asked : EndpointKey) (g : Gate) (inbound : Inbound) : Prop where
  /-- Among registrations without common keys it is that of the route, if its version is. -/
  apart : (before ++ d :: after).Pairwise (RouteDeclaration.Apart front) → d.SameVersion r →
    g.Uses defaults front inbound d
  /-- It is that of the route if its key is reached and nothing later has the key. -/
  own : d.Reached defaults front (before ++ d :: after) r asked →
    (∀ d' ∈ after, ¬ d'.StoresUnder defaults front (d.key front m)) →
    g.Uses defaults front inbound d
  /-- It is that of a later registration if one has the key. -/
  replaced : d.Reached defaults front (before ++ d :: after) r asked →
    (∃ d' ∈ after, d'.StoresUnder defaults front (d.key front m)) →
    ∃ d' ∈ after, d'.StoresUnder defaults front (d.key front m) ∧ g.Uses defaults front inbound d'
  /-- It is that of another registration if one has the key that is asked for, and not the route. -/
  other : ¬ d.SameVersion r → asked.version.unhashable? = none →
    (∃ d' ∈ before ++ d :: after, d'.StoresUnder defaults front asked) →
    ∃ d' ∈ before ++ d :: after, d' ≠ d ∧ d'.StoresUnder defaults front asked ∧
      g.Uses defaults front inbound d'
  /-- There is none for a version that cannot be part of a key. -/
  refused : ∀ type, asked.version.unhashable? = some type →
    g.registry.lookup inbound.path inbound.method inbound.version = .error (.unhashable type)

section Found

variable {defaults : Defaults} {front : String} {ds before after : List RouteDeclaration}
  {d : RouteDeclaration} {m method : String} {r : Route} {g : Gate} {inbound : Inbound}

/-- What is looked up under the key asked for, and then without its version. -/
theorem Gate.lookup_asked
    (hg : g.registry = Registry.empty.putAll (RouteDeclaration.allStores defaults front ds))
    (hask : EndpointKey.parse inbound.path inbound.method inbound.version =
      EndpointKey.parse (.string r.path) (.string method) r.version)
    {asked : EndpointKey} (hasked : asked = EndpointKey.ofText r.path method r.version)
    (hu : asked.version.unhashable? = none) :
    g.registry.lookup inbound.path inbound.method inbound.version =
      .ok ((latest? asked (RouteDeclaration.allStores defaults front ds)).or
        (if asked.version.isNull then none
          else latest? asked.unversioned (RouteDeclaration.allStores defaults front ds))) := by
  subst hasked
  rw [Registry.lookup_eq, hask, EndpointKey.parse_text r.path method hu, map_ok, hg,
    find?_putAll_empty]

variable (hr : Router.Placed front defaults d r) (hq : Text.upper m = method)

include hr hq

/-- The key asked for has the path and the method of the registration. -/
theorem Router.Placed.asked_eq :
    EndpointKey.ofText r.path method r.version =
      { d.key front m with version := Endpoint.normalVersion r.version } := by
  rw [← hq, EndpointKey.ofText_upper, hr.path]
  rfl

theorem Router.Placed.asked_of_sameVersion (hs : d.SameVersion r) :
    EndpointKey.ofText r.path method r.version = d.key front m := by
  rw [hr.asked_eq hq, hr.normalVersion_eq hs]
  rfl

/-- Without the version of the registration, its own key is the one without a version. -/
theorem Router.Placed.asked_of_not_sameVersion (hs : ¬ d.SameVersion r) :
    (EndpointKey.ofText r.path method r.version).unversioned = d.key front m ∧
      (EndpointKey.ofText r.path method r.version).version = r.version ∧
      r.version.truthy = true := by
  obtain ⟨hd, hv⟩ := RouteDeclaration.not_sameVersion_iff.1 hs
  refine ⟨?_, Endpoint.normalVersion_of_truthy hv, hv⟩
  rw [hr.asked_eq hq, EndpointKey.unversioned, RouteDeclaration.key, EndpointKey.ofText,
    Endpoint.normalVersion_of_falsy hd]

/-- If the key of the registration is reached, what is stored there last is found. -/
theorem Gate.finds_of_reached (hm : m ∈ d.verified)
    (hg : g.registry = Registry.empty.putAll (RouteDeclaration.allStores defaults front ds))
    (hask : EndpointKey.parse inbound.path inbound.method inbound.version =
      EndpointKey.parse (.string r.path) (.string method) r.version)
    (hreached : d.Reached defaults front ds r (EndpointKey.ofText r.path method r.version))
    {e : Endpoint}
    (he : latest? (d.key front m) (RouteDeclaration.allStores defaults front ds) = some e) :
    g.Finds inbound e := by
  by_cases hs : d.SameVersion r
  · have hasked := hr.asked_of_sameVersion hq hs
    have hu : (d.key front m).version.unhashable? = none :=
      (hr.accepted (List.ne_nil_of_mem hm)).hashable
    rw [Finds, lookup_asked hg hask hasked.symm hu, he]
    rfl
  · obtain ⟨hunversioned, hversion, htruthy⟩ := hr.asked_of_not_sameVersion hq hs
    obtain ⟨hu, hnone⟩ := hreached.resolve_left hs
    have hnull : (EndpointKey.ofText r.path method r.version).version.isNull = false := by
      rw [hversion]
      cases hv : r.version with
      | null => simp [hv, Value.truthy] at htruthy
      | _ => rfl
    rw [Finds, lookup_asked hg hask rfl hu, RouteDeclaration.latest?_of_none hnone, hnull,
      hunversioned, he]
    rfl

theorem configured_of_placed (hm : m ∈ d.verified)
    (hg : g.registry =
      Registry.empty.putAll (RouteDeclaration.allStores defaults front (before ++ d :: after)))
    (hask : EndpointKey.parse inbound.path inbound.method inbound.version =
      EndpointKey.parse (.string r.path) (.string method) r.version) :
    Configured defaults front before d after m r (EndpointKey.ofText r.path method r.version) g
      inbound := by
  have hown : d.Reached defaults front (before ++ d :: after) r
        (EndpointKey.ofText r.path method r.version) →
      (∀ d' ∈ after, ¬ d'.StoresUnder defaults front (d.key front m)) →
      g.Uses defaults front inbound d := by
    intro hreached hafter
    obtain ⟨e, he, hdeclares⟩ := RouteDeclaration.latest?_of_last (hr.storesUnder hm) hafter
    exact ⟨e, Gate.finds_of_reached hr hq hm hg hask hreached he, hdeclares⟩
  refine ⟨?_, hown, ?_, ?_, ?_⟩
  · intro hapart hs
    apply hown (Or.inl hs)
    intro d' hd'
    obtain ⟨-, hlater, -⟩ := List.pairwise_append.1 hapart
    exact ((List.pairwise_cons.1 hlater).1 d' hd').not_storesUnder hm
  · intro hreached hlater
    have hsplit : before ++ d :: after = (before ++ [d]) ++ after := by simp
    obtain ⟨d', hd', hstores, e, he, hdeclares⟩ :=
      RouteDeclaration.latest?_of_later (before ++ [d]) hlater
    rw [← hsplit] at he
    exact ⟨d', hd', hstores, e, Gate.finds_of_reached hr hq hm hg hask hreached he, hdeclares⟩
  · intro hs hu hsome
    obtain ⟨-, hversion, htruthy⟩ := hr.asked_of_not_sameVersion hq hs
    obtain ⟨d', hd', hstores, e, he, hdeclares⟩ :=
      RouteDeclaration.latest?_of_later [] hsome
    refine ⟨d', hd', ?_, hstores, e, ?_, hdeclares⟩
    · -- the registration itself is stored without a version
      rintro rfl
      obtain ⟨m', -, hkey⟩ := RouteDeclaration.exists_key_of_storesUnder hstores
      have hd := (RouteDeclaration.not_sameVersion_iff.1 hs).1
      have hnull : (EndpointKey.ofText r.path method r.version).version.key = .null := by
        rw [← (Prod.mk.inj (Prod.mk.inj hkey).2).2, RouteDeclaration.key, EndpointKey.ofText,
          Endpoint.normalVersion_of_falsy hd]
        rfl
      rw [hversion] at hnull
      exact Value.key_ne_null_of_truthy htruthy hnull
    · rw [List.nil_append] at he
      rw [Gate.Finds, Gate.lookup_asked hg hask rfl hu, he]
      rfl
  · intro type hu
    rw [Registry.lookup_eq, hask, EndpointKey.parse_text_of_unhashable r.path method hu]
    rfl

end Found

/-! ## The routes of an application -/

/-- For any registrations on one router, in any order and whether or not they succeed: a request
that goes to a verified route of an application of the router goes to the route of a registration,
and `Configured` says which declaration verifies it. In particular, among registrations without
common keys it is the declaration of the route itself, if the version that the registration was
given is that of the route. -/
theorem App.configuration_of_route {defaults : Defaults} {front outer : String} {start : Router}
    {ds : List RouteDeclaration} {settings : Settings} {hooks : Hooks} {handlesFailures : Bool}
    {framework : Framework} {infoPath : Option String} {a : App} {q : Http.Request} {r : Route}
    {params : Table Value}
    (hstart : Router.ofFront (.ofDefaults defaults) front = .ok start)
    (ha : ofRouter (start.addAll ds) outer settings hooks handlesFailures framework infoPath = .ok a)
    (hdispatch : Route.dispatch a.settings q a.routes = .ok (.route r params))
    (hverifies : .verification ∈ r.dependencies) :
    (∃ before d after, ds = before ++ d :: after ∧ start.AddsRoute before d r) ∧
      ∀ before d after, ds = before ++ d :: after → start.AddsRoute before d r →
        ∀ m ∈ d.verified, Text.upper m = q.method →
          ∃ inbound, Inbound.ofValues (.string r.path) (.string q.method) r.version
              (.map (Http.sources params q)) = .ok inbound ∧
            Configured defaults front before d after m r
              (EndpointKey.ofText r.path q.method r.version) a.gate inbound := by
  obtain ⟨_, -, hstart⟩ := bind_eq_ok_iff.1 hstart
  obtain rfl := Except.ok.inj hstart
  constructor
  · obtain ⟨added, hadded, hr⟩ :=
      mem_routes_of_verifies ha (Route.mem_of_dispatch hdispatch) hverifies
    rcases Router.mem_routes_addAll hadded with h | ⟨before, d, after, hds, hadd⟩
    · simp at h
    · exact ⟨before, d, after, hds, added, hadd, hr⟩
  · rintro before d after rfl ⟨added, hadd, hr⟩ m hm hq
    have hi := Inbound.ofValues_text r.path q.method r.version (Http.sources params q)
    refine ⟨_, hi, ?_⟩
    have hplaced : Router.Placed front defaults d r := by
      obtain ⟨hfront, hgate⟩ := Router.addAll_eq ⟨.ofDefaults defaults, front, []⟩ before
      have hp := Router.placed_of_add hadd
      rw [hfront, hgate] at hp
      rw [hr]
      exact ⟨hp.path, hp.version, hp.dependencies, hp.accepted⟩
    have hregistry : a.gate.registry = Registry.empty.putAll
        (RouteDeclaration.allStores defaults front (before ++ d :: after)) := by
      obtain ⟨own, routes, -, -, rfl⟩ := ofRouter_eq_ok ha
      rw [(Router.addAll_eq _ _).2]
      rfl
    exact configured_of_placed hplaced hq hm hregistry (Inbound.parse_ofValues hi)

/-! ### Two routes of one path and method -/

/-- A route for reading items with one text, whose version is given to the registration or stands in
its extra data. -/
def itemRoute (index : Nat) (name : String) (version extra : Value) : RouteDeclaration where
  index := index
  path := "/items"
  api := .map [(.string "params", .map [(.string name, .string "string")])]
  version := version
  methods := []
  extra := extra
  dependencies := []
  handler := .arguments none

/-- A request for the second version. -/
def secondRequest : Http.Request := ⟨"GET", "/items", [], [("accept-version", "2.0.0")], []⟩

/-- The router without a front after registrations. -/
def itemApp (ds : List RouteDeclaration) : Except Fault App :=
  App.ofRouter ((Router.bare .standard).addAll ds) "" .standard (Hooks.ofList []) true .bare none

/-- The names of the parameters of an endpoint. -/
def Endpoint.parameterNames (e : Endpoint) : List (Option String) :=
  e.parameters.keys.map Value.asText?

/-- The route to which the request for the second version goes, whether it is verified, and the
names of the parameters for which it is checked. -/
def secondUse (ds : List RouteDeclaration) : Option (Nat × Bool × List (Option String)) := do
  let a ← (itemApp ds).toOption
  match Route.dispatch a.settings secondRequest a.routes with
  | .ok (.route r params) =>
      let inbound ← (Inbound.ofValues (.string r.path) (.string secondRequest.method) r.version
        (.map (Http.sources params secondRequest))).toOption
      let found ← (a.gate.registry.lookup inbound.path inbound.method inbound.version).toOption
      some (r.index, r.dependencies.contains .verification,
        (found.map Endpoint.parameterNames).getD [])
  | _ => none

/-- The request for the second version goes to a verified route of the given number and is checked
for a parameter of the given name. -/
structure ServesSecond (ds : List RouteDeclaration) (index : Nat) (name : String) (a : App)
    (r : Route) (params : Table Value) (inbound : Inbound) (e : Endpoint) : Prop where
  built : itemApp ds = .ok a
  dispatched : Route.dispatch a.settings secondRequest a.routes = .ok (.route r params)
  index_eq : r.index = index
  verifies : .verification ∈ r.dependencies
  read : Inbound.ofValues (.string r.path) (.string secondRequest.method) r.version
    (.map (Http.sources params secondRequest)) = .ok inbound
  finds : a.gate.Finds inbound e
  names : e.parameterNames = [some name]

theorem servesSecond_of_secondUse {ds : List RouteDeclaration} {index : Nat} {name : String}
    (h : secondUse ds = some (index, true, [some name])) :
    ∃ a r params inbound e, ServesSecond ds index name a r params inbound e := by
  unfold secondUse at h
  cases ha : itemApp ds with
  | error fault => simp [ha, Except.toOption] at h
  | ok a =>
      simp only [ha, Except.toOption, Option.bind_eq_bind, Option.bind_some] at h
      split at h
      · rename_i r params hdispatch
        have hi := Inbound.ofValues_text r.path secondRequest.method r.version
          (Http.sources params secondRequest)
        generalize (⟨_, _, _, _⟩ : Inbound) = inbound at hi
        rw [hi] at h
        simp only [Option.bind_some] at h
        cases hl : a.gate.registry.lookup inbound.path inbound.method inbound.version with
        | error fault => simp [hl] at h
        | ok found =>
            obtain ⟨hindex, hverifies, hnames⟩ := by simpa [hl] using h
            cases found with
            | none => simp at hnames
            | some e =>
                exact ⟨a, r, params, inbound, e, ha, hdispatch, hindex, hverifies, hi, hl,
                  by simpa using hnames⟩
      · simp at h

/-! #### The version in the extra data alone -/

/-- The extra data of a route that has a version. -/
def versionExtra (version : String) : Value := .map [(Router.versionName, .string version)]

/-- Two versions given to the registrations. -/
def givenVersions : List RouteDeclaration :=
  [itemRoute 0 "a" (.string "1.0.0") .null, itemRoute 1 "b" (.string "2.0.0") .null]

/-- One version in the extra data, and the same one given to the other registration. -/
def extraVersion : List RouteDeclaration :=
  [itemRoute 0 "a" .null (versionExtra "2.0.0"), itemRoute 1 "b" (.string "2.0.0") .null]

/-- One version in the extra data, and a route without a version. -/
def extraVersionOnly : List RouteDeclaration :=
  [itemRoute 0 "a" .null (versionExtra "2.0.0"), itemRoute 1 "b" .null .null]

section Items

variable {index : Nat} {name : String} {version extra : Value}

theorem verified_itemRoute : (itemRoute index name version extra).verified = ["GET"] :=
  RouteDeclaration.verified_of_standard rfl rfl

/-- An item route declares a parameter of its own name. -/
theorem parameterNames_of_declares {defaults : Defaults} {front : String} {e : Endpoint}
    (h : (itemRoute index name version extra).Declares defaults front e) :
    e.parameterNames = [some name] := by
  obtain ⟨m, -, he⟩ := h
  obtain ⟨entries, specs, hapi, hb⟩ := Endpoint.built_of_ofDeclaration he
  obtain rfl := Value.map.inj hapi
  have hspecs : [(.string name, .string "string")] = specs := Value.map.inj hb.specs_eq
  rw [Endpoint.parameterNames, hb.keys_eq, ← hspecs]
  rfl

end Items

/-- The second route is verified by its own declaration. -/
theorem configuration_of_given_versions :
    ∃ a r params inbound e, ServesSecond givenVersions 1 "b" a r params inbound e ∧
      ∃ before d after, givenVersions = before ++ d :: after ∧
        (Router.bare .standard).AddsRoute before d r ∧ a.gate.Uses .standard "" inbound d := by
  have hused : secondUse givenVersions = some (1, true, [some "b"]) := by decide +kernel
  have hapart : givenVersions.Pairwise (RouteDeclaration.Apart "") :=
    List.pairwise_pair.2 (RouteDeclaration.apart_of_version (by decide))
  have hverified : ∀ d ∈ givenVersions, d.version.truthy = true ∧ "GET" ∈ d.verified := by
    intro d hd
    rcases List.mem_pair.1 hd with rfl | rfl
    · exact ⟨rfl, by simp [verified_itemRoute]⟩
    · exact ⟨rfl, by simp [verified_itemRoute]⟩
  have hmethod : Text.upper "GET" = secondRequest.method := Gate.upper_get
  obtain ⟨a, r, params, inbound, e, hs⟩ := servesSecond_of_secondUse hused
  have hstart : Router.ofFront (.ofDefaults .standard) "" = .ok (Router.bare .standard) := rfl
  obtain ⟨⟨before, d, after, hds, hadds⟩, hall⟩ :=
    App.configuration_of_route hstart hs.built hs.dispatched hs.verifies
  have hd : d ∈ givenVersions := by
    rw [hds]
    simp
  obtain ⟨htruthy, hget⟩ := hverified d hd
  obtain ⟨other, hread, hconfigured⟩ := hall before d after hds hadds "GET" hget hmethod
  obtain rfl : other = inbound := Except.ok.inj (hread.symm.trans hs.read)
  rw [hds] at hapart
  exact ⟨a, r, params, other, e, hs, before, d, after, hds, hadds,
    hconfigured.apart hapart (Or.inl htruthy)⟩

/-- A route whose version stands in its extra data alone is verified by the declaration of another
route, though their registrations have no key in common, or though their routes have different
versions. -/
theorem extra_version_uses_other :
    extraVersion.Pairwise (RouteDeclaration.Apart "") ∧
      (∃ a r params inbound e, ServesSecond extraVersion 0 "b" a r params inbound e) ∧
      (∃ a r params inbound e, ServesSecond extraVersionOnly 0 "b" a r params inbound e) ∧
      ∀ e, (itemRoute 0 "a" .null (versionExtra "2.0.0")).Declares .standard "" e →
        e.parameterNames = [some "a"] := by
  have hused : secondUse extraVersion = some (0, true, [some "b"]) := by decide +kernel
  have hused' : secondUse extraVersionOnly = some (0, true, [some "b"]) := by decide +kernel
  have hapart : extraVersion.Pairwise (RouteDeclaration.Apart "") :=
    List.pairwise_pair.2 (RouteDeclaration.apart_of_version (by decide))
  exact ⟨hapart, servesSecond_of_secondUse hused, servesSecond_of_secondUse hused',
    fun e he => parameterNames_of_declares he⟩

end ParamGate
