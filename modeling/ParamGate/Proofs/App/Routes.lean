import ParamGate.App.Basic
import ParamGate.Proofs.Endpoint.Registry
import ParamGate.Proofs.Route.Negotiation

/-!
# The routes of an application

An application has its pages and the listing, which verify nothing, and the routes of its router
behind a further front, which changes nothing but their templates. What the gate sees of a request
is said by `Inbound.ofValues_text`.
-/

namespace ParamGate

/-- A framework with empty pages and no help. -/
def Framework.bare : Framework := ⟨fun _ => .ok "", fun _ => ""⟩

namespace App

variable {a : App} {router : Router} {front : String} {settings : Settings} {hooks : Hooks}
  {handlesFailures : Bool} {framework : Framework} {infoPath : Option String}

theorem dependencies_of_listingRoute {path : String} {r : Route}
    (h : listingRoute path = .ok r) : r.dependencies = [] := by
  obtain ⟨template, -, h⟩ := bind_eq_ok_iff.1 h
  rw [← Except.ok.inj h]

/-- The listing of an application, if it has one. -/
def Lists (settings : Settings) (infoPath : Option String) (listing : List Route) : Prop :=
  listingPath settings infoPath = "" ∧ listing = [] ∨
    listingPath settings infoPath ≠ "" ∧
      ∃ r, listingRoute (listingPath settings infoPath) = .ok r ∧ listing = [r]

theorem lists_of_ofRouter
    (h : ofRouter router front settings hooks handlesFailures framework infoPath = .ok a) :
    ∃ listing routes, Lists settings infoPath listing ∧
      Router.behind front router.routes = .ok routes ∧
      a = ⟨router.gate, settings, hooks, handlesFailures, framework,
        Page.all.map pageRoute ++ listing ++ routes⟩ := by
  -- with and without a listing the remaining steps are the same
  have key {listing : Except Fault (List Route)}
      (hlisting : ∀ rs, listing = .ok rs → Lists settings infoPath rs)
      (h : (listing >>= fun listing => Router.checkFront front >>= fun _ =>
        Router.checkPaths front router.routes >>= fun _ =>
          Router.behind front router.routes >>= fun routes =>
            .ok ⟨router.gate, settings, hooks, handlesFailures, framework,
              Page.all.map pageRoute ++ listing ++ routes⟩) = .ok a) :
      ∃ listing routes, Lists settings infoPath listing ∧
        Router.behind front router.routes = .ok routes ∧
        a = ⟨router.gate, settings, hooks, handlesFailures, framework,
          Page.all.map pageRoute ++ listing ++ routes⟩ := by
    obtain ⟨rs, hrs, h⟩ := bind_eq_ok_iff.1 h
    obtain ⟨_, -, h⟩ := bind_eq_ok_iff.1 h
    obtain ⟨_, -, h⟩ := bind_eq_ok_iff.1 h
    obtain ⟨routes, hroutes, h⟩ := bind_eq_ok_iff.1 h
    exact ⟨rs, routes, hlisting rs hrs, hroutes, (Except.ok.inj h).symm⟩
  unfold ofRouter at h
  simp only at h
  split at h
  · rename_i hpath
    refine key ?_ h
    intro rs hrs
    exact Or.inl ⟨hpath, (Except.ok.inj hrs).symm⟩
  · rename_i hpath
    refine key ?_ h
    intro rs hrs
    obtain ⟨r, hr, rfl⟩ := map_eq_ok_iff.1 hrs
    exact Or.inr ⟨hpath, r, hr, rfl⟩

theorem ofRouter_eq_ok
    (h : ofRouter router front settings hooks handlesFailures framework infoPath = .ok a) :
    ∃ own routes, (∀ r ∈ own, r.dependencies = []) ∧
      Router.behind front router.routes = .ok routes ∧
      a = ⟨router.gate, settings, hooks, handlesFailures, framework, own ++ routes⟩ := by
  obtain ⟨listing, routes, hlists, hroutes, ha⟩ := lists_of_ofRouter h
  refine ⟨Page.all.map pageRoute ++ listing, routes, ?_, hroutes, ha⟩
  intro r hr
  rcases List.mem_append.1 hr with hr | hr
  · obtain ⟨p, -, rfl⟩ := List.mem_map.1 hr
    rfl
  rcases hlists with ⟨-, rfl⟩ | ⟨-, r', hr', rfl⟩
  · simp at hr
  · rw [List.mem_singleton.1 hr]
    exact dependencies_of_listingRoute hr'

end App

/-- The further front of a router stands in the templates of its routes and nowhere else. -/
theorem Router.mem_behind {front : String} {routes placed : List Route}
    (h : behind front routes = .ok placed) {r : Route} (hr : r ∈ placed) :
    ∃ r' ∈ routes, r = { r' with template := r.template } := by
  induction routes generalizing placed with
  | nil =>
      obtain rfl := Except.ok.inj h
      simp at hr
  | cons s routes ih =>
      obtain ⟨template, -, h⟩ := bind_eq_ok_iff.1 h
      obtain ⟨others, hothers, h⟩ := bind_eq_ok_iff.1 h
      obtain rfl := Except.ok.inj h
      rcases List.mem_cons.1 hr with rfl | hr
      · exact ⟨s, List.mem_cons_self, rfl⟩
      · obtain ⟨r', hr', he⟩ := ih hothers hr
        exact ⟨r', List.mem_cons_of_mem s hr', he⟩

/-- A route of an application that verifies its requests is one of its router. -/
theorem App.mem_routes_of_verifies {a : App} {router : Router} {front : String}
    {settings : Settings} {hooks : Hooks} {handlesFailures : Bool} {framework : Framework}
    {infoPath : Option String}
    (h : ofRouter router front settings hooks handlesFailures framework infoPath = .ok a)
    {r : Route} (hr : r ∈ a.routes) (hv : .verification ∈ r.dependencies) :
    ∃ r' ∈ router.routes, r = { r' with template := r.template } := by
  obtain ⟨own, routes, hown, hroutes, rfl⟩ := ofRouter_eq_ok h
  rcases List.mem_append.1 hr with hr | hr
  · rw [hown r hr] at hv
    simp at hv
  · exact Router.mem_behind hroutes hr

/-- What the gate sees of a request of a route: the method counts in upper case. -/
theorem Inbound.ofValues_text (path method : String) (version : Value) (sources : Table Value) :
    ofValues (.string path) (.string method) version (.map sources) =
      .ok ⟨.string path, (EndpointKey.ofText path method version).method,
        (EndpointKey.ofText path method version).version, sources⟩ := by
  rw [ofValues, EndpointKey.ofValues_text, ok_bind]
  cases sources with
  | nil => rfl
  | cons entry rest => rfl

end ParamGate
