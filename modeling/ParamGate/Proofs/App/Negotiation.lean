import Mathlib.Data.List.Forall2
import ParamGate.Proofs.App.Configuration
import ParamGate.Proofs.Route.Negotiation

/-!
# Which route answers a request

The routes of an application are those of the registrations that succeeded, in order, each with the
version that it was given or else the one in its extra data, behind the pages and the listing of the
application (`App.routes_ofRouter`). The main statement, `App.serve_negotiates`, says for every
request which of them answers it: the first that qualifies, and the version handed to verification
is its own. A route before it whose matching is a fault fails the request, though a later route
would answer it. If none qualifies, the request is told that the method is wrong, or it is sent to
its path with one more slash or without those at its end, or it is told that there is no such path.
-/

namespace ParamGate

namespace Router

/-! ## The routes of registrations in order -/

/-- The route that a registration adds to a router with the given front, once it stands behind a
further front. -/
structure Stands (outer front : String) (d : RouteDeclaration) (r : Route) : Prop where
  index : r.index = d.index
  path : r.path = front ++ d.path
  template : Route.Template.parse (outer ++ r.path) = .ok r.template
  methods : r.methods = (methodsOf d).map Text.upper
  handler : r.handler = d.handler
  given : d.version.truthy = true → r.version = d.version
  held : d.version.truthy = false → versionOf d.extra = .ok r.version

/-- The registrations that succeed, in order. -/
def succeeding (start : Router) : List RouteDeclaration → List RouteDeclaration
  | [] => []
  | d :: ds =>
      match (start.add d).2 with
      | .ok _ => d :: succeeding (start.add d).1 ds
      | .error _ => succeeding (start.add d).1 ds

section Stands

variable {start : Router} {outer front : String} {d : RouteDeclaration} {r : Route}

theorem succeeding_sublist (start : Router) (ds : List RouteDeclaration) :
    (start.succeeding ds).Sublist ds := by
  induction ds generalizing start with
  | nil => exact .slnil
  | cons d ds ih =>
      rw [succeeding]
      split
      · exact (ih _).cons_cons d
      · exact (ih _).cons d

theorem stands_of_add (h : (start.add d).2 = .ok r) : Stands "" start.front d r := by
  have hadds := adds_add start d
  rw [h] at hadds
  generalize (start.add d).1 = next at hadds
  cases hadds with
  | @placed extra g _ hextra _ hroute =>
      obtain ⟨template, htemplate, hroute⟩ := bind_eq_ok_iff.1 hroute
      obtain ⟨version, hversion, hroute⟩ := bind_eq_ok_iff.1 hroute
      obtain rfl := Except.ok.inj hroute
      refine ⟨rfl, rfl, ?_, rfl, rfl, ?_, ?_⟩
      · rw [String.empty_append]
        exact htemplate
      · intro hv
        rw [versionOf_withVersion hv hextra] at hversion
        exact (Except.ok.inj hversion).symm
      · intro hv
        rw [withVersion, hv, if_neg Bool.false_ne_true] at hextra
        rw [Except.ok.inj hextra]
        exact hversion

/-- Registrations add the routes of those that succeed, in order. -/
theorem routes_addAll (start : Router) (ds : List RouteDeclaration) :
    ∃ added, (start.addAll ds).routes = start.routes ++ added ∧
      List.Forall₂ (Stands "" start.front) (start.succeeding ds) added := by
  induction ds generalizing start with
  | nil => exact ⟨[], (List.append_nil _).symm, .nil⟩
  | cons d ds ih =>
      obtain ⟨added, hroutes, hstands⟩ := ih (start.add d).1
      rw [front_add] at hstands
      have hfirst := routes_add start d
      have hcons : start.addAll (d :: ds) = (start.add d).1.addAll ds := rfl
      rw [hcons, hroutes, hfirst, succeeding]
      cases hadd : (start.add d).2 with
      | error fault => exact ⟨added, by simp [Except.toOption], hstands⟩
      | ok r =>
          exact ⟨r :: added, by simp [Except.toOption], .cons (stands_of_add hadd) hstands⟩

/-- A further front changes the templates of routes and nothing else. -/
theorem stands_behind {ds : List RouteDeclaration} {routes placed : List Route}
    (hstands : List.Forall₂ (Stands "" front) ds routes) (h : behind outer routes = .ok placed) :
    List.Forall₂ (Stands outer front) ds placed := by
  induction hstands generalizing placed with
  | nil =>
      rw [← Except.ok.inj h]
      exact .nil
  | cons hr _ ih =>
      obtain ⟨template, htemplate, h⟩ := bind_eq_ok_iff.1 h
      obtain ⟨others, hothers, h⟩ := bind_eq_ok_iff.1 h
      rw [← Except.ok.inj h]
      exact .cons ⟨hr.index, hr.path, htemplate, hr.methods, hr.handler, hr.given, hr.held⟩
        (ih hothers)

end Stands

end Router

namespace App

/-! ## The routes of an application -/

section Routes

variable {start : Router} {ds : List RouteDeclaration} {outer : String} {settings : Settings}
  {hooks : Hooks} {handlesFailures : Bool} {framework : Framework} {infoPath : Option String}
  {a : App}

/-- The routes of an application: the pages, the listing, if there is one, and then the routes of
the registrations that succeeded, in order. -/
def RoutesOf (start : Router) (ds : List RouteDeclaration) (outer : String) (settings : Settings)
    (infoPath : Option String) (a : App) : Prop :=
  ∃ listing placed, a.routes = Page.all.map pageRoute ++ listing ++ placed ∧
    Lists settings infoPath listing ∧
    List.Forall₂ (Router.Stands outer start.front) (start.succeeding ds) placed

theorem routes_ofRouter (hstart : start.routes = [])
    (h : ofRouter (start.addAll ds) outer settings hooks handlesFailures framework infoPath =
      .ok a) : RoutesOf start ds outer settings infoPath a := by
  obtain ⟨listing, placed, hlists, hplaced, rfl⟩ := lists_of_ofRouter h
  obtain ⟨added, hadded, hstands⟩ := start.routes_addAll ds
  rw [hstart, List.nil_append] at hadded
  rw [hadded] at hplaced
  exact ⟨listing, placed, rfl, hlists, Router.stands_behind hstands hplaced⟩

end Routes

/-! ## The answer to a request -/

/-- Verification that reads the parameters of the path and the version from the scope. -/
def verificationIn (a : App) (r : Route) (scope : Route.Scope) (q : Http.Request) :
    Run Exchange Unit := do
  let inbound ← Run.lift <| Inbound.ofValues (.string r.path) (.string q.method) scope.version
    (.map (Http.sources scope.params q))
  a.gate.verify a.hooks inbound

/-- The answer with a status and a short detail, without a handler. -/
def plainAnswer (status : Int) (text : String) : Outcome :=
  { reply := ⟨status, some jsonType, text⟩, reached := none, events := [], raised := none }

/-- The answer that sends the client elsewhere. -/
def sentTo (target : String) : Outcome :=
  { reply := .empty 307, reached := none, events := [], raised := none, target := some target }

/-- How an application answers a request. -/
structure Negotiates (a : App) (q : Http.Request) : Prop where
  /-- The first route that qualifies answers it, and verification reads the version of that route
  from the scope. -/
  answered : ∀ r params, Route.First (Route.Passes a.settings q) a.routes r →
    r.Qualifies a.settings q params → a.serve q = a.serveRoute r params q ∧
      ∃ scope, Route.negotiate a.settings q a.routes = .ok (.route r params, scope) ∧
        scope.version = r.version ∧ a.verificationIn r scope q = a.verification r params q
  /-- A route before it whose matching is a fault fails the request. -/
  failed : ∀ r, Route.First (Route.Passes a.settings q) a.routes r → r.Breaks a.settings q →
    ∃ fault, r.matchRequest a.settings q = .error fault ∧ a.serve q = a.failed [] fault
  /-- Where no route stops the request, one that has the path says that the method is wrong. -/
  wrongMethod : (∀ r ∈ a.routes, r.Passes a.settings q) →
    (∃ r ∈ a.routes, r.HasPath a.settings q) →
    a.serve q = plainAnswer 405 "\x7b\"detail\":\"Method Not Allowed\"\x7d"
  /-- A request that every route misses is sent to the other path, with its query, if the first
  route that knows of it there has that path. -/
  redirected : (∀ r ∈ a.routes, r.Misses a.settings q) → ∀ path r, Route.Twin q.path path →
    Route.First (Route.Misses a.settings { q with path := path }) a.routes r →
    r.HasPath a.settings { q with path := path } →
    (∀ query, listedBytes q.query = .ok query →
      a.serve q = sentTo (if query = "" then path else path ++ "?" ++ query)) ∧
    ∀ fault, listedBytes q.query = .error fault → a.serve q = a.failed [] fault
  /-- It fails if matching that route with the other path is a fault. -/
  astray : (∀ r ∈ a.routes, r.Misses a.settings q) → ∀ path r, Route.Twin q.path path →
    Route.First (Route.Misses a.settings { q with path := path }) a.routes r →
    r.Breaks a.settings { q with path := path } →
    ∃ fault, r.matchRequest a.settings { q with path := path } = .error fault ∧
      a.serve q = a.failed [] fault
  /-- If every route misses the other path too, there is no such path. -/
  unknown : (∀ r ∈ a.routes, r.Misses a.settings q) →
    (∀ path, Route.Twin q.path path →
      ∀ r ∈ a.routes, r.Misses a.settings { q with path := path }) →
    a.serve q = plainAnswer 404 "\x7b\"detail\":\"Not Found\"\x7d"
  /-- One of these is the case. -/
  settled : (∃ r, Route.First (Route.Passes a.settings q) a.routes r ∧
      ((∃ params, r.Qualifies a.settings q params) ∨ r.Breaks a.settings q)) ∨
    (∀ r ∈ a.routes, r.Passes a.settings q) ∧ (∃ r ∈ a.routes, r.HasPath a.settings q) ∨
    (∀ r ∈ a.routes, r.Misses a.settings q) ∧
      ((∃ path r, Route.Twin q.path path ∧
        Route.First (Route.Misses a.settings { q with path := path }) a.routes r ∧
        (r.HasPath a.settings { q with path := path } ∨
          r.Breaks a.settings { q with path := path })) ∨
        ∀ path, Route.Twin q.path path →
          ∀ r ∈ a.routes, r.Misses a.settings { q with path := path })
  /-- A request for a version is never answered by a route of another one. -/
  sameVersion : ∀ v r params, Route.requestedVersion a.settings q.headers = .ok (some v) →
    Route.dispatch a.settings q a.routes = .ok (.route r params) →
    r.version = .null ∨ (Value.string v).equal r.version = true

section Serve

variable {a : App} {q : Http.Request} {r : Route} {params : Table Value}

theorem serve_of_dispatch (h : Route.dispatch a.settings q a.routes = .ok (.route r params)) :
    a.serve q = a.serveRoute r params q := by
  rw [serve, h]

theorem redirected_eq {path : String} :
    (∀ query, listedBytes q.query = .ok query →
      a.redirected path q = sentTo (if query = "" then path else path ++ "?" ++ query)) ∧
    ∀ fault, listedBytes q.query = .error fault → a.redirected path q = a.failed [] fault := by
  constructor
  · intro query hquery
    rw [redirected, targetOf, hquery]
    rfl
  · intro fault hfault
    rw [redirected, targetOf, hfault]
    rfl

theorem misses_of_passes (hall : ∀ r ∈ a.routes, r.Passes a.settings q)
    (hpath : ¬ ∃ r ∈ a.routes, r.HasPath a.settings q) :
    ∀ r ∈ a.routes, r.Misses a.settings q :=
  fun r hr => ⟨fun h => hpath ⟨r, hr, h⟩, (hall r hr).unbroken⟩

/-- Some route knows of a request by its other path, or none does. -/
theorem first_twin :
    (∃ path r, Route.Twin q.path path ∧
      Route.First (Route.Misses a.settings { q with path := path }) a.routes r ∧
      (r.HasPath a.settings { q with path := path } ∨
        r.Breaks a.settings { q with path := path })) ∨
      ∀ path, Route.Twin q.path path →
        ∀ r ∈ a.routes, r.Misses a.settings { q with path := path } := by
  by_contra h
  obtain ⟨hnone, hall⟩ := not_or.1 h
  refine hall fun path htwin => ?_
  rcases Route.first_knows a.settings { q with path := path } a.routes with
    ⟨r, hfirst, hknows⟩ | hmisses
  · exact absurd ⟨path, r, htwin, hfirst, hknows⟩ hnone
  · exact hmisses

/-- The scope of a request at the route that it goes to has the version of that route. -/
theorem verificationIn_eq :
    a.verificationIn r ⟨params, r.version⟩ q = a.verification r params q :=
  rfl

theorem negotiates (a : App) (q : Http.Request) : a.Negotiates q where
  answered r params hfirst hq := by
    have hd := Route.dispatch_of_qualifies hfirst hq
    exact ⟨serve_of_dispatch hd, _, Route.negotiate_of_dispatch hd, rfl, verificationIn_eq⟩
  failed r hfirst hb := by
    obtain ⟨fault, hm, hd⟩ := Route.dispatch_of_breaks hfirst hb
    refine ⟨fault, hm, ?_⟩
    rw [serve, hd]
  wrongMethod hall hpath := by
    obtain ⟨r, hr, hpath⟩ := hpath
    rw [serve, Route.dispatch_of_hasPath hall hr hpath]
    rfl
  redirected hall path r htwin hfirst hpath := by
    have hserve : a.serve q = a.redirected path q := by
      rw [serve, Route.dispatch_of_misses hall, Route.redirect_of_hasPath htwin hfirst hpath]
    rw [hserve]
    exact redirected_eq
  astray hall path r htwin hfirst hb := by
    obtain ⟨fault, hm, hr⟩ := Route.redirect_of_breaks htwin hfirst hb
    refine ⟨fault, hm, ?_⟩
    rw [serve, Route.dispatch_of_misses hall, hr]
  unknown hall htwins := by
    rw [serve, Route.dispatch_of_misses hall, Route.redirect_of_misses htwins]
    rfl
  settled := by
    rcases Route.first_stops a.settings q a.routes with hstops | hall
    · exact Or.inl hstops
    by_cases hpath : ∃ r ∈ a.routes, r.HasPath a.settings q
    · exact Or.inr (Or.inl ⟨hall, hpath⟩)
    exact Or.inr (Or.inr ⟨misses_of_passes hall hpath, first_twin⟩)
  sameVersion v r params hw hd := by
    obtain ⟨-, hq⟩ := Route.dispatch_eq_route_iff.1 hd
    exact (Route.compatible_iff_of_asked hw).1 hq.compatible

end Serve

/-- Whatever is registered, every request is answered by the first route in the order of
registration that has its path, its method and its version, under the version of that route. The
pages and the listing come before the routes that are registered. If there is none, the request is
told that the method is wrong, or it is sent to its path up to the slashes at the end, or it is told
that there is no such path. It fails if matching a route before that is a fault. -/
theorem serve_negotiates {start : Router} {ds : List RouteDeclaration} {outer : String}
    {settings : Settings} {hooks : Hooks} {handlesFailures : Bool} {framework : Framework}
    {infoPath : Option String} {a : App} (hstart : start.routes = [])
    (h : ofRouter (start.addAll ds) outer settings hooks handlesFailures framework infoPath = .ok a)
    (q : Http.Request) :
    a.settings = settings ∧ (start.succeeding ds).Sublist ds ∧
      RoutesOf start ds outer settings infoPath a ∧ a.Negotiates q := by
  have hsettings : a.settings = settings := by
    obtain ⟨listing, placed, -, -, rfl⟩ := lists_of_ofRouter h
    rfl
  exact ⟨hsettings, start.succeeding_sublist ds, routes_ofRouter hstart h, negotiates a q⟩

end App

/-! ### Two versions of one path -/

/-- The route to which the request for the second version goes, and the version in its scope. -/
def secondScope (ds : List RouteDeclaration) : Option (Nat × Option String) := do
  let a ← (itemApp ds).toOption
  match Route.negotiate a.settings secondRequest a.routes with
  | .ok (.route r _, scope) => some (r.index, scope.version.asText?)
  | _ => none

theorem negotiated_of_secondScope {ds : List RouteDeclaration} {index : Nat} {v : String}
    (h : secondScope ds = some (index, some v)) :
    ∃ a r params scope, itemApp ds = .ok a ∧
      Route.negotiate a.settings secondRequest a.routes = .ok (.route r params, scope) ∧
      r.index = index ∧ scope.version.asText? = some v := by
  unfold secondScope at h
  cases ha : itemApp ds with
  | error fault => simp [ha, Except.toOption] at h
  | ok a =>
      simp only [ha, Except.toOption, Option.bind_eq_bind, Option.bind_some] at h
      split at h
      · rename_i r params scope hnegotiate
        obtain ⟨hindex, hversion⟩ := Prod.mk.inj (Option.some.inj h)
        exact ⟨a, r, params, scope, rfl, hnegotiate, hindex, hversion⟩
      · simp at h

/-- The request for the second version skips the route of the first one, and verification gets the
version of the second route. -/
theorem serve_negotiates_second :
    ∃ a r params scope, itemApp givenVersions = .ok a ∧ r.index = 1 ∧
      a.serve secondRequest = a.serveRoute r params secondRequest ∧
      a.verificationIn r scope secondRequest = a.verification r params secondRequest ∧
      scope.version.asText? = some "2.0.0" := by
  have hscope : secondScope givenVersions = some (1, some "2.0.0") := by decide +kernel
  obtain ⟨a, r, params, scope, ha, hnegotiate, hindex, hversion⟩ :=
    negotiated_of_secondScope hscope
  have hstart : (Router.bare .standard).routes = [] := rfl
  obtain ⟨-, -, -, hn⟩ := App.serve_negotiates hstart ha secondRequest
  have hdispatch : Route.dispatch a.settings secondRequest a.routes = .ok (.route r params) := by
    rw [← Route.map_negotiate, hnegotiate]
    rfl
  obtain ⟨hfirst, hq⟩ := Route.dispatch_eq_route_iff.1 hdispatch
  obtain ⟨hserve, scope', hsame, -, hverify⟩ := hn.answered r params hfirst hq
  -- the request has one scope at its route
  rw [hnegotiate] at hsame
  obtain rfl := (Prod.mk.inj (Except.ok.inj hsame)).2
  exact ⟨a, r, params, scope, ha, hindex, hserve, hverify, hversion⟩

/-! ### Requests that no registered route gets in order -/

namespace Route

open Text

theorem downFrom_succ (n : Nat) : downFrom (n + 1) 1 = (n + 1) :: downFrom n 1 := by
  unfold downFrom
  rw [List.range_succ, List.filter_append, List.reverse_append]
  rfl

/-- A path that ends in digits matches a template with one parameter there, whether it is a segment
or an integer. -/
theorem matchFrom_digits {k : Converter} (hk : k = .segment ∨ k = .integer) (before : List Char)
    (name : String) (n : Nat) :
    matchFrom [.literal before, .parameter name k] (before ++ List.replicate (n + 1) '9') =
      some [(name, k, List.replicate (n + 1) '9')] := by
  have hprefix : before.isPrefixOf (before ++ List.replicate (n + 1) '9') = true :=
    List.isPrefixOf_iff_prefix.2 (List.prefix_append _ _)
  have hlengths : k.lengths (List.replicate (n + 1) '9') = (n + 1) :: downFrom n 1 := by
    rcases hk with rfl | rfl
    · rw [Converter.lengths, List.takeWhile_replicate, if_pos (by decide), List.length_replicate,
        downFrom_succ]
    · rw [Converter.lengths, List.takeWhile_replicate, if_pos (by decide), List.length_replicate,
        downFrom_succ]
  rw [matchFrom, if_pos hprefix, List.drop_left, matchFrom, hlengths, List.findSome?_cons]
  -- the longest text is tried first, and it leaves nothing
  simp [matchFrom]

theorem takeDigits_replicate (n : Nat) :
    (takeDigits asciiDigit? (List.replicate n '9')).1.length = n := by
  induction n with
  | zero => rfl
  | succ n ih =>
      have hdigit : asciiDigit? '9' = some 9 := by decide
      rw [List.replicate_succ, takeDigits, hdigit]
      simp [ih]

theorem misses_of_matchPath {s : Settings} {q : Http.Request} {r : Route}
    (h : r.template.matchPath? q.path = .ok none) : r.Misses s q := by
  refine ⟨?_, not_breaks h (Or.inl rfl)⟩
  rintro ⟨⟨params, hf⟩, -⟩
  rw [Fits, h] at hf
  simp at hf

end Route

/-- A page misses the requests whose path does not begin with its own. -/
theorem App.misses_pageRoute {s : Settings} {q : Http.Request} {p : Page}
    (h : p.path.toList.isPrefixOf q.path.toList = false) : (pageRoute p).Misses s q := by
  apply Route.misses_of_matchPath
  rw [pageRoute, Route.Template.matchPath?, Route.matchFrom, h]
  rfl

/-- A route which declares the parameter of its path, if it has one. -/
def numberRoute (index : Nat) (path version : String) : RouteDeclaration where
  index := index
  path := path
  api := .map [(.string "params", .map [(.string "n", .string "any")])]
  version := .string version
  methods := []
  extra := .null
  dependencies := []
  handler := .arguments none

/-- The second version takes an integer from the path, the first one any text. The last route has
the path of a page. -/
def numberRoutes : List RouteDeclaration :=
  [numberRoute 0 "/items/\x7bn:int\x7d" "2.0.0", numberRoute 1 "/items/\x7bn\x7d" "1.0.0",
    numberRoute 2 "/docs" "1.0.0"]

/-- A request for the first version. -/
def firstRequest (path : List Char) : Http.Request :=
  ⟨"GET", String.ofList path, [], [("accept-version", "1.0.0")], []⟩

/-- A request with a number of 4301 digits. -/
def longRequest : Http.Request :=
  firstRequest ("/items/".toList ++ List.replicate 4301 '9')

/-- A request with a slash too many. -/
def slashedRequest : Http.Request := firstRequest "/items/5/".toList

/-- A request for the page, or for the route that has its path. -/
def docsRequest : Http.Request := firstRequest "/docs".toList

/-- A part of a template in a form that can be compared. -/
def Route.Segment.parts : Route.Segment → List Char × Option (String × Route.Converter)
  | .literal cs => (cs, none)
  | .parameter name k => ([], some (name, k))

theorem Route.Segment.parts_injective : Function.Injective Route.Segment.parts := by
  intro x y h
  cases x <;> cases y <;> simp_all [Route.Segment.parts]

/-- What counts when a route is matched with a request for a version. -/
structure Route.Face where
  template : List (List Char × Option (String × Route.Converter))
  methods : List String
  unversioned : Bool
  sameVersion : Bool
deriving DecidableEq

/-- The face that a route shows to requests for a version. -/
def Route.face (v : String) (r : Route) : Route.Face :=
  ⟨r.template.map Route.Segment.parts, r.methods, r.version.isNull,
    (Value.string v).equal r.version⟩

/-- The face of a route for reading with a version. -/
def Route.Face.ofTemplate (t : Route.Template) (sameVersion : Bool) : Route.Face :=
  ⟨t.map Route.Segment.parts, ["GET"], false, sameVersion⟩

/-- The route with this template is for reading and has a version, which is the one of the requests
or another one. -/
structure Route.Shows (t : Route.Template) (sameVersion : Bool) (r : Route) : Prop where
  template : r.template = t
  methods : r.methods = ["GET"]
  compatible_iff : ∀ path, r.Compatible .standard (firstRequest path) ↔ sameVersion = true

theorem numberRoutes_faces :
    (itemApp numberRoutes).toOption.map (fun a =>
        (a.routes.drop Page.all.length).map (Route.face "1.0.0")) =
      some [.ofTemplate [.literal "/items/".toList, .parameter "n" .integer] false,
        .ofTemplate [.literal "/items/".toList, .parameter "n" .segment] true,
        .ofTemplate [.literal "/docs".toList] true] := by
  decide +kernel

theorem first_asks (path : List Char) :
    Route.requestedVersion .standard (firstRequest path).headers = .ok (some "1.0.0") := by
  have hasks : (Route.requestedVersion .standard [("accept-version", "1.0.0")]).toOption =
      some (some "1.0.0") := by decide +kernel
  rw [firstRequest]
  cases hw : Route.requestedVersion .standard [("accept-version", "1.0.0")] with
  | error fault => simp [hw, Except.toOption] at hasks
  | ok wanted =>
      rw [hw] at hasks
      rw [Option.some.inj hasks]

theorem Route.shows_of_face {r : Route} {t : Route.Template} {sameVersion : Bool}
    (h : r.face "1.0.0" = .ofTemplate t sameVersion) : r.Shows t sameVersion := by
  obtain ⟨htemplate, hmethods, hversion, hsame⟩ := Route.Face.mk.inj h
  refine ⟨List.map_injective_iff.2 Route.Segment.parts_injective htemplate, hmethods, ?_⟩
  intro path
  have hne : r.version ≠ .null := fun hn => by simp [hn, Value.isNull] at hversion
  rw [Route.compatible_iff_of_asked (first_asks path), or_iff_right hne, hsame]

/-- What is known of the application with these routes. -/
structure NumberApp (a : App) (r₀ r₁ r₂ : Route) : Prop where
  built : itemApp numberRoutes = .ok a
  settings_eq : a.settings = .standard
  routes_eq : a.routes = Page.all.map App.pageRoute ++ [r₀, r₁, r₂]
  integer : r₀.Shows [.literal "/items/".toList, .parameter "n" .integer] false
  segment : r₁.Shows [.literal "/items/".toList, .parameter "n" .segment] true
  docs : r₂.Shows [.literal "/docs".toList] true

theorem exists_numberApp : ∃ a r₀ r₁ r₂, NumberApp a r₀ r₁ r₂ := by
  have hfaces := numberRoutes_faces
  cases ha : itemApp numberRoutes with
  | error fault => simp [ha, Except.toOption] at hfaces
  | ok a =>
      rw [ha] at hfaces
      obtain ⟨listing, placed, hlists, -, rfl⟩ := App.lists_of_ofRouter ha
      -- the settings name no path for the listing
      obtain ⟨-, rfl⟩ := hlists.resolve_right fun h => h.1 rfl
      obtain ⟨r₀, rest, rfl, hface₀, hrest⟩ := List.map_eq_cons_iff.1 (Option.some.inj hfaces)
      obtain ⟨r₁, rest, rfl, hface₁, hrest⟩ := List.map_eq_cons_iff.1 hrest
      obtain ⟨r₂, rest, rfl, hface₂, hrest⟩ := List.map_eq_cons_iff.1 hrest
      obtain rfl := List.map_eq_nil_iff.1 hrest
      exact ⟨_, r₀, r₁, r₂, ha, rfl, rfl, Route.shows_of_face hface₀, Route.shows_of_face hface₁,
        Route.shows_of_face hface₂⟩

section NumberApp

variable {a : App} {r₀ r₁ r₂ : Route}

theorem path_firstRequest (path : List Char) : (firstRequest path).path.toList = path :=
  String.toList_ofList

/-- A route for reading that matches the path qualifies if it has the version of the request. -/
theorem Route.Shows.qualifies {t : Route.Template} {r : Route} {path : List Char}
    {params : Table Value} (h : r.Shows t true)
    (hfits : t.matchPath? (firstRequest path).path = .ok (some params)) :
    r.Qualifies .standard (firstRequest path) params where
  fits := by rw [Route.Fits, h.template, hfits]
  method := by
    rw [h.methods]
    exact List.mem_singleton_self _
  compatible := (h.compatible_iff path).2 rfl

/-- A route of another version misses a request whose path can be read. -/
theorem Route.Shows.misses {t : Route.Template} {r : Route} {path : List Char}
    {found : Option (Table Value)} (h : r.Shows t false)
    (hp : t.matchPath? (firstRequest path).path = .ok found) :
    r.Misses .standard (firstRequest path) := by
  rw [← h.template] at hp
  refine ⟨fun hpath => ?_, Route.not_breaks hp (Or.inr (Or.inr ⟨_, first_asks path⟩))⟩
  exact Bool.false_ne_true ((h.compatible_iff path).1 hpath.2)

/-- The pages miss the requests for items. -/
theorem misses_pages {s : Settings} (path : List Char) :
    ∀ r ∈ Page.all.map App.pageRoute, r.Misses s (firstRequest ("/items/".toList ++ path)) := by
  intro r hr
  obtain ⟨p, -, rfl⟩ := List.mem_map.1 hr
  apply App.misses_pageRoute
  rw [path_firstRequest]
  cases p <;> rfl

/-- The route of the first version has the path, the method and the version of the request, and no
route before it has. But the route of the second version is matched before, and with that the
request fails. -/
theorem long_integer_hides_route (h : NumberApp a r₀ r₁ r₂) :
    (∀ params, ¬ r₀.Qualifies a.settings longRequest params) ∧
      (∃ params, r₁.Qualifies a.settings longRequest params) ∧
      ∃ fault, a.serve longRequest = a.failed [] fault := by
  have hpath : longRequest.path.toList = "/items/".toList ++ List.replicate 4301 '9' :=
    path_firstRequest _
  -- the digits are read before the versions are compared
  have hoverflows : r₀.Overflows longRequest := by
    refine ⟨[("n", .integer, List.replicate 4301 '9')], "n", List.replicate 4301 '9', ?_,
      List.mem_singleton_self _, ?_⟩
    · rw [h.integer.template, hpath]
      exact Route.matchFrom_digits (Or.inr rfl) _ "n" 4300
    · rw [Route.takeDigits_replicate]
      decide
  have hfirst : Route.First (Route.Passes a.settings longRequest) a.routes r₀ := by
    refine ⟨Page.all.map App.pageRoute, [r₁, r₂], h.routes_eq, ?_⟩
    exact fun r hr => (misses_pages _ r hr).passes
  obtain ⟨fault, -, hserve⟩ := (App.negotiates a longRequest).failed r₀ hfirst (.digits hoverflows)
  have hfits : Route.Template.matchPath? [.literal "/items/".toList, .parameter "n" .segment]
      longRequest.path =
        .ok (some [(.string "n", .string (String.ofList (List.replicate 4301 '9')))]) := by
    rw [Route.Template.matchPath?, hpath, Route.matchFrom_digits (Or.inl rfl) _ "n" 4300]
    rfl
  rw [h.settings_eq]
  refine ⟨fun params hq => ?_, ⟨_, h.segment.qualifies hfits⟩, fault, hserve⟩
  exact Bool.false_ne_true ((h.integer.compatible_iff _).1 hq.compatible)

/-- No route has the path of the request, but it is sent to the path without the slash. -/
theorem slashed_is_redirected (h : NumberApp a r₀ r₁ r₂) :
    (∀ r ∈ a.routes, r.Misses a.settings slashedRequest) ∧
      a.serve slashedRequest = App.sentTo "/items/5" := by
  have hmisses : ∀ r ∈ a.routes, r.Misses a.settings slashedRequest := by
    rw [h.routes_eq]
    refine List.forall_mem_append.2 ⟨misses_pages ['5', '/'], ?_⟩
    intro r hr
    apply Route.misses_of_matchPath
    rcases List.mem_cons.1 hr with rfl | hr
    · rw [h.integer.template]
      rfl
    rcases List.mem_pair.1 hr with rfl | rfl
    · rw [h.segment.template]
      rfl
    · rw [h.docs.template]
      rfl
  have hslash : slashedRequest.path.toList = "/items/5".toList ++ List.replicate 1 '/' := rfl
  have htwin : Route.Twin slashedRequest.path (String.ofList "/items/5".toList) :=
    .bare (by decide) hslash (by decide)
  -- with the slash taken away it is a request for the item
  have hfirst :
      Route.First (Route.Misses a.settings (firstRequest "/items/5".toList)) a.routes r₁ := by
    refine ⟨Page.all.map App.pageRoute ++ [r₀], [r₂], by simp [h.routes_eq], ?_⟩
    refine List.forall_mem_append.2 ⟨misses_pages ['5'], ?_⟩
    intro r hr
    have hfits : Route.Template.matchPath? [.literal "/items/".toList, .parameter "n" .integer]
        (firstRequest "/items/5".toList).path = .ok (some [(.string "n", .int 5)]) := rfl
    rw [List.mem_singleton.1 hr, h.settings_eq]
    exact h.integer.misses hfits
  have hpath : r₁.HasPath a.settings (firstRequest "/items/5".toList) := by
    have hq : r₁.Qualifies .standard (firstRequest "/items/5".toList)
        [(.string "n", .string "5")] := h.segment.qualifies rfl
    rw [h.settings_eq]
    exact ⟨⟨_, hq.fits⟩, hq.compatible⟩
  obtain ⟨hserve, -⟩ :=
    (App.negotiates a slashedRequest).redirected hmisses _ r₁ htwin hfirst hpath
  refine ⟨hmisses, (hserve "" rfl).trans ?_⟩
  rw [if_pos rfl, String.ofList_toList]

/-- The route has the path, the method and the version of the request, but the page answers it. -/
theorem page_hides_route (h : NumberApp a r₀ r₁ r₂) :
    (∃ params, r₂.Qualifies a.settings docsRequest params) ∧
      a.serve docsRequest = a.serveRoute (App.pageRoute .docs) [] docsRequest := by
  have hfits (t : Route.Template) (ht : t = [.literal "/docs".toList]) :
      t.matchPath? docsRequest.path = .ok (some []) := by
    rw [ht]
    rfl
  have hfirst :
      Route.First (Route.Passes a.settings docsRequest) a.routes (App.pageRoute .docs) := by
    refine ⟨[App.pageRoute .schema], _, h.routes_eq, ?_⟩
    rintro r hr
    rw [List.mem_singleton.1 hr]
    exact (App.misses_pageRoute rfl).passes
  have hpage : (App.pageRoute .docs).Qualifies a.settings docsRequest [] :=
    ⟨hfits _ rfl, List.mem_cons_self, .unversioned rfl⟩
  refine ⟨⟨[], ?_⟩, ((App.negotiates a docsRequest).answered _ [] hfirst hpage).1⟩
  rw [h.settings_eq]
  exact h.docs.qualifies (hfits _ rfl)

end NumberApp

/-- Three requests that do not go by the registrations: one fails before the route that qualifies,
one is sent elsewhere though no route has its path, and one is answered by a page instead of the
route that qualifies. -/
theorem requests_apart_from_registrations :
    ∃ a r₀ r₁ r₂, NumberApp a r₀ r₁ r₂ ∧
      ((∀ params, ¬ r₀.Qualifies a.settings longRequest params) ∧
        (∃ params, r₁.Qualifies a.settings longRequest params) ∧
        ∃ fault, a.serve longRequest = a.failed [] fault) ∧
      ((∀ r ∈ a.routes, r.Misses a.settings slashedRequest) ∧
        a.serve slashedRequest = App.sentTo "/items/5") ∧
      (∃ params, r₂.Qualifies a.settings docsRequest params) ∧
        a.serve docsRequest = a.serveRoute (App.pageRoute .docs) [] docsRequest := by
  obtain ⟨a, r₀, r₁, r₂, h⟩ := exists_numberApp
  exact ⟨a, r₀, r₁, r₂, h, long_integer_hides_route h, slashed_is_redirected h,
    page_hides_route h⟩

end ParamGate
