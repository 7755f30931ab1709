import ParamGate.Proofs.App.Routes
import ParamGate.Proofs.Gate.Ruling
import ParamGate.Proofs.Route.Registration

/-!
# What gets past verification

The dependencies of a route are resolved in order, and the verification of its requests is the first
of them. So nothing else of the route runs unless the gate returned, continued the request and sent
nothing. The main statement, `App.serve_verified`, says for each way in which the gate and its hooks
may end, by whatever actions, what runs and what the client receives.
-/

namespace ParamGate

/-! ## Events of a gate and its hooks -/

/-- From the first state to the second no dependency of a route ran. -/
def Exchange.NoneResolved (x y : Exchange) : Prop :=
  ∃ added, y.events = x.events ++ added ∧ ∀ name, .dependency name ∉ added

theorem Exchange.noneResolved_of_events {x y : Exchange} (h : y.events = x.events) :
    x.NoneResolved y :=
  ⟨[], by rw [h, List.append_nil], by simp⟩

theorem Exchange.NoneResolved.trans {x y z : Exchange} (hxy : x.NoneResolved y)
    (hyz : y.NoneResolved z) : x.NoneResolved z := by
  obtain ⟨before, hy, hbefore⟩ := hxy
  obtain ⟨after, hz, hafter⟩ := hyz
  refine ⟨before ++ after, by rw [hz, hy, List.append_assoc], ?_⟩
  intro name hmem
  rcases List.mem_append.1 hmem with h | h
  · exact hbefore name h
  · exact hafter name h

theorem Exchange.told_noneResolved (y : Exchange) (hooks : Hooks) (hook : Value) (notice : Notice) :
    y.NoneResolved (y.told hooks hook notice).2 := by
  cases hook with
  | hook h => exact ⟨[.notified h.name notice y.attributes], performAll_events _ _, by simp⟩
  | _ => exact noneResolved_of_events rfl

theorem Ruling.outcome_noneResolved (hooks : Hooks) (y : Exchange) (ruling : Ruling) :
    y.NoneResolved (ruling.outcome hooks y).2 := by
  cases ruling with
  | proceed => exact Exchange.noneResolved_of_events rfl
  | refuse body =>
      rw [outcome]
      cases Reply.ofValue rejectedStatus body with
      | ok reply => exact Exchange.noneResolved_of_events rfl
      | error fault => exact Exchange.noneResolved_of_events rfl
  | tellError hook notice => exact y.told_noneResolved hooks hook notice
  | tellSuccess hook => exact y.told_noneResolved hooks hook .accepted

theorem Gate.Silent.noneResolved {x y : Exchange} (h : Silent x y) : x.NoneResolved y := by
  obtain ⟨asked, hy, hasked⟩ := h.asked
  refine ⟨asked, hy, ?_⟩
  intro name hmem
  exact absurd (hasked _ hmem) (by simp [Event.IsJudged])

/-- Whatever a gate and its hooks do with a request, they run no dependency of a route. -/
theorem Gate.verify_noneResolved (g : Gate) (hooks : Hooks) (r : Inbound) {x : Exchange}
    (hx : x.reply = none) : x.NoneResolved ((g.verify hooks r).exec x).2 := by
  rcases rules_or_stops g hooks r x with ⟨ruling, y, h⟩ | ⟨fault, y, h⟩
  · rw [verify_exec_of_rules hx h]
    exact (silent_of_rules h).noneResolved.trans (ruling.outcome_noneResolved hooks y)
  · rw [verify_exec_of_stops h]
    exact (silent_of_stops h).1.noneResolved

/-! ## Dependencies in order -/

/-- A verified route resolves its verification before the dependencies that it declares. -/
theorem Router.Placed.dependencies_eq {front : String} {defaults : Defaults}
    {d : RouteDeclaration} {r : Route} (h : Placed front defaults d r) (hne : d.verified ≠ []) :
    r.dependencies = .verification :: d.dependencies.map .named := by
  rw [h.dependencies, dependenciesOf, if_neg (by simpa using hne)]

namespace App

section Resolve

variable {a : App} {r : Route} {params : Table Value} {q : Http.Request}

/-- Once its request is read, a verification is what the gate does with it. -/
theorem verification_eq {inbound : Inbound}
    (h : Inbound.ofValues (.string r.path) (.string q.method) r.version
      (.map (Http.sources params q)) = .ok inbound) :
    a.verification r params q = a.gate.verify a.hooks inbound := by
  rw [verification, h]
  rfl

/-- Declared dependencies let every request through, each of them after those before it. -/
theorem resolve_named (names : List String) (x : Exchange) :
    a.resolve r params q x (names.map .named) =
      (.passed, { x with events := x.events ++ names.map .dependency }) := by
  induction names generalizing x with
  | nil => simp [resolve]
  | cons name names ih =>
      rw [List.map_cons, resolve, ih]
      simp

/-- Verification ends with the request let through: the gate returned, it continued the request at
least once, and nothing was sent. -/
def Passes (run : Except Fault Unit × Exchange) : Prop :=
  run.1 = .ok () ∧ 0 < run.2.continued ∧ run.2.reply = none

/-- The reply to a request that was neither answered nor continued. -/
def unfinishedAnswer : Reply :=
  ⟨500, some jsonType,
    "\x7b\"error\":\"Request was not completed\",\"params\":\x7b\x7d\x7d"⟩

theorem incompleteReply_eq : incompleteReply = .ok unfinishedAnswer := rfl

theorem passageOf_eq_passed_iff {run : Except Fault Unit × Exchange} :
    passageOf run.1 run.2 = .passed ↔ Passes run := by
  obtain ⟨outcome, y⟩ := run
  unfold passageOf Passes
  cases outcome with
  | error fault => simp
  | ok u =>
      cases hy : y.reply with
      | some reply => simp
      | none =>
          by_cases hc : y.continued = 0
          · simp [hc, incompleteReply_eq]
          · simp [hc, Nat.pos_of_ne_zero hc]

end Resolve

/-! ## Handlers -/

section Handle

variable (a : App) (r : Route) (params : Table Value) (q : Http.Request) (x : Exchange)

/-- The handler of a route can be called: the arguments that it takes of its own are valid. -/
def Takes : Prop :=
  match r.handler with
  | .count => ∃ n, countArgument r params q = .ok n
  | _ => True

theorem events_replied (events : List Event) (reached : Option Reached)
    (reply : Except Fault Reply) : (a.replied events reached reply).events = events := by
  cases reply with
  | ok reply => rfl
  | error fault => rfl

theorem handled_replied (events : List Event) (reached : Option Reached)
    (reply : Except Fault Reply) : (a.replied events reached reply).handled = false := by
  cases reply with
  | ok reply => rfl
  | error fault => rfl

theorem events_handle : (a.handle r params q x).events = x.events := by
  unfold handle
  cases r.handler with
  | arguments slot => exact events_replied a _ _ _
  | count =>
      cases countArgument r params q with
      | ok n => exact events_replied a _ _ _
      | error problem => exact events_replied a _ _ _
  | fail message => rfl
  | listing => exact events_replied a _ _ _
  | page p => exact events_replied a _ _ _

/-- A handler runs exactly if it can be called. -/
theorem handled_handle_iff : (a.handle r params q x).handled = true ↔ Takes r params q := by
  unfold handle Takes
  cases r.handler with
  | count =>
      cases countArgument r params q with
      | ok n => simp [Outcome.byHandler]
      | error problem => simp [handled_replied]
  | _ => simp [Outcome.byHandler]

end Handle

/-! ## Serving a verified route -/

/-- How a request of a verified route fares by what its verification came to. `declared` are the
other dependencies of the route; `takes` says that its handler can be called. -/
structure Guarded (run : Except Fault Unit × Exchange) (declared : List String) (takes : Prop)
    (o : Outcome) : Prop where
  /-- The handler runs for exactly those requests that pass and that it can be called for. -/
  handled : o.handled = true ↔ Passes run ∧ takes
  /-- The other dependencies run for exactly those requests that pass. -/
  resolved : ∀ name, .dependency name ∈ o.events ↔ Passes run ∧ name ∈ declared
  /-- They run in order and after all that verification did. -/
  ordered : Passes run → o.events = run.2.events ++ declared.map .dependency
  /-- What was sent is what the client receives, even if the request was continued too. -/
  answered : ∀ reply, run.1 = .ok () → run.2.reply = some reply →
    o.reply = reply ∧ o.raised = none ∧ o.events = run.2.events
  /-- A request that was neither answered nor continued is reported as not completed. -/
  unfinished : run.1 = .ok () → run.2.reply = none → run.2.continued = 0 →
    o.reply = unfinishedAnswer ∧ o.raised = none ∧ o.events = run.2.events
  /-- What verification raises goes on to the client, and nothing else runs. -/
  raised : ∀ fault, run.1 = .error fault →
    o.raised = some fault ∧ o.handled = false ∧ o.events = run.2.events

section Serve

variable {a : App} {r : Route} {params : Table Value} {q : Http.Request} {names : List String}
  {run : Except Fault Unit × Exchange}

/-- What passes gets to the other dependencies and then to the handler. -/
theorem serveRoute_of_passes (hr : r.dependencies = .verification :: names.map .named)
    (hv : (a.verification r params q).exec .fresh = run) (hp : Passes run) :
    a.serveRoute r params q =
      a.handle r params q { run.2 with events := run.2.events ++ names.map .dependency } := by
  rw [serveRoute, hr, resolve, hv]
  simp only [passageOf_eq_passed_iff.2 hp, resolve_named]

/-- What verification raises ends the request. -/
theorem serveRoute_of_error (hr : r.dependencies = .verification :: names.map .named)
    (hv : (a.verification r params q).exec .fresh = run) {fault : Fault}
    (h : run.1 = .error fault) : a.serveRoute r params q = a.failed run.2.events fault := by
  obtain ⟨outcome, y⟩ := run
  obtain rfl : outcome = .error fault := h
  rw [serveRoute, hr, resolve, hv]
  rfl

/-- What does not pass after verification returned is answered: by what was sent, or else as not
completed. -/
theorem serveRoute_of_ok (hr : r.dependencies = .verification :: names.map .named)
    (hv : (a.verification r params q).exec .fresh = run) (h : run.1 = .ok ()) (hp : ¬ Passes run) :
    a.serveRoute r params q =
      a.replied run.2.events none (.ok (run.2.reply.getD unfinishedAnswer)) := by
  obtain ⟨outcome, y⟩ := run
  obtain rfl : outcome = .ok () := h
  rw [serveRoute, hr, resolve, hv]
  cases hy : y.reply with
  | some reply => simp [passageOf, hy]
  | none =>
      -- without a reply only a request that was not continued does not pass
      have hc : y.continued = 0 := by
        by_contra hc
        exact hp ⟨rfl, Nat.pos_of_ne_zero hc, hy⟩
      simp [passageOf, hy, hc, incompleteReply_eq]

theorem guarded_of_not_passes (hr : r.dependencies = .verification :: names.map .named)
    (hv : (a.verification r params q).exec .fresh = run)
    (hgate : ∀ name, .dependency name ∉ run.2.events) (hp : ¬ Passes run) (takes : Prop) :
    Guarded run names takes (a.serveRoute r params q) := by
  have hstopped : (a.serveRoute r params q).handled = false ∧
      (a.serveRoute r params q).events = run.2.events := by
    cases h : run.1 with
    | error fault =>
        rw [serveRoute_of_error hr hv h]
        exact ⟨rfl, rfl⟩
    | ok u =>
        rw [serveRoute_of_ok hr hv h hp]
        exact ⟨rfl, rfl⟩
  obtain ⟨hhandled, hevents⟩ := hstopped
  refine ⟨by simp [hhandled, hp], ?_, fun h => absurd h hp, ?_, ?_, ?_⟩
  · intro name
    rw [hevents]
    exact ⟨fun h => absurd h (hgate name), fun h => absurd h.1 hp⟩
  · intro reply hok hreply
    rw [serveRoute_of_ok hr hv hok hp, hreply]
    exact ⟨rfl, rfl, rfl⟩
  · intro hok hreply _
    rw [serveRoute_of_ok hr hv hok hp, hreply]
    exact ⟨rfl, rfl, rfl⟩
  · intro fault herror
    rw [serveRoute_of_error hr hv herror]
    exact ⟨rfl, rfl, rfl⟩

theorem guarded_of_passes (hr : r.dependencies = .verification :: names.map .named)
    (hv : (a.verification r params q).exec .fresh = run)
    (hgate : ∀ name, .dependency name ∉ run.2.events) (hp : Passes run) :
    Guarded run names (Takes r params q) (a.serveRoute r params q) := by
  have hok := hp.1
  have hcontinued := hp.2.1
  have hreply := hp.2.2
  have hevents := events_handle a r params q
    { run.2 with events := run.2.events ++ names.map .dependency }
  have hhandled := handled_handle_iff a r params q
    { run.2 with events := run.2.events ++ names.map .dependency }
  rw [← serveRoute_of_passes hr hv hp] at hevents hhandled
  refine ⟨by simp [hhandled, hp], ?_, fun _ => hevents, ?_, ?_, ?_⟩
  · intro name
    rw [hevents, List.mem_append, List.mem_map]
    -- the gate left no such event, so it is that of a declared dependency
    constructor
    · rintro (h | ⟨other, hother, he⟩)
      · exact absurd h (hgate name)
      · rw [← Event.dependency.inj he]
        exact ⟨hp, hother⟩
    · rintro ⟨-, hname⟩
      exact Or.inr ⟨name, hname, rfl⟩
  · intro reply _ hsome
    rw [hreply] at hsome
    simp at hsome
  · intro _ _ hzero
    omega
  · intro fault herror
    rw [hok] at herror
    simp at herror

/-- The outcome of a route whose verification comes first. -/
theorem guarded_serveRoute {inbound : Inbound}
    (hr : r.dependencies = .verification :: names.map .named)
    (hi : Inbound.ofValues (.string r.path) (.string q.method) r.version
      (.map (Http.sources params q)) = .ok inbound) :
    Guarded ((a.gate.verify a.hooks inbound).exec .fresh) names (Takes r params q)
      (a.serveRoute r params q) := by
  have hv : (a.verification r params q).exec .fresh =
      (a.gate.verify a.hooks inbound).exec .fresh := by
    rw [verification_eq hi]
  have hgate : ∀ name,
      .dependency name ∉ ((a.gate.verify a.hooks inbound).exec .fresh).2.events := by
    obtain ⟨added, hevents, hadded⟩ :=
      a.gate.verify_noneResolved a.hooks inbound (x := .fresh) rfl
    rw [hevents]
    exact hadded
  by_cases hp : Passes ((a.gate.verify a.hooks inbound).exec .fresh)
  · exact guarded_of_passes hr hv hgate hp
  · exact guarded_of_not_passes hr hv hgate hp _

end Serve

/-- Whatever a gate and its hooks do with a request of a verified route, the other dependencies and
the handler run exactly if the gate returned, continued the request and sent nothing. If it returned
and something was sent, the client receives just that; if it returned and did neither, the client is
told that the request was not completed; and what it raises is raised, with nothing else run. -/
theorem serve_verified {router : Router} {d : RouteDeclaration} {r : Route} {a : App}
    {q : Http.Request} {params : Table Value} {template : Route.Template}
    (hadd : (router.add d).2 = .ok r) (hne : d.verified ≠ [])
    (hdispatch : Route.dispatch a.settings q a.routes =
      .ok (.route { r with template := template } params)) :
    ∃ inbound, Inbound.ofValues (.string r.path) (.string q.method) r.version
        (.map (Http.sources params q)) = .ok inbound ∧
      Guarded ((a.gate.verify a.hooks inbound).exec .fresh) d.dependencies
        (Takes { r with template := template } params q) (a.serve q) := by
  have hr := (Router.placed_of_add hadd).dependencies_eq hne
  have hi := Inbound.ofValues_text r.path q.method r.version (Http.sources params q)
  refine ⟨_, hi, ?_⟩
  rw [serve, hdispatch]
  exact guarded_serveRoute hr hi

/-! ### A hook that continues and then sends -/

/-- A route with a bounded number, a dependency of its own and a success hook. -/
def heldRoute : RouteDeclaration where
  index := 0
  path := "/items"
  api := .map (Gate.boundedFields 3 ++ [(.string "success", .hook ⟨"hold", 0⟩)])
  version := .null
  methods := []
  extra := .null
  dependencies := ["audit"]
  handler := .arguments none

/-- The application of that route, whose hook continues the request and then sends a text. -/
def heldApp : App where
  gate := ((Router.bare .standard).add heldRoute).1.gate
  settings := .standard
  hooks := Hooks.ofList [.acting [.next, .send (.string "held") 202]]
  handlesFailures := true
  framework := .bare
  routes := ((Router.bare .standard).add heldRoute).1.routes

/-- A request with a number within the bound. -/
def heldRequest : Http.Request := ⟨"GET", "/items", [110, 61, 50], [], []⟩

/-- The way in which the gate ends for a destination. -/
def heldRun : Except Fault Route.Destination → Option (Bool × Option Reply × Nat)
  | .ok (.route r params) =>
      let run := (heldApp.verification r params heldRequest).exec .fresh
      some (run.1.isOk, run.2.reply, run.2.continued)
  | _ => none

/-- The request was continued, but the client receives what the hook sent, and nothing else runs. -/
theorem serve_verified_held :
    ∃ r params, ((Router.bare .standard).add heldRoute).2 = .ok r ∧ heldRoute.verified ≠ [] ∧
      Route.dispatch heldApp.settings heldRequest heldApp.routes = .ok (.route r params) ∧
      (heldApp.serve heldRequest).reply = ⟨202, some jsonType, "\"held\""⟩ ∧
      (heldApp.serve heldRequest).handled = false ∧
      ∀ name, .dependency name ∉ (heldApp.serve heldRequest).events := by
  have hne : heldRoute.verified ≠ [] := by
    rw [RouteDeclaration.verified_of_standard rfl rfl]
    simp
  have hcomputed : (((Router.bare .standard).add heldRoute).2.isOk,
      heldRun (Route.dispatch heldApp.settings heldRequest heldApp.routes)) =
      (true, some (true, some ⟨202, some jsonType, "\"held\""⟩, 1)) := by
    decide +kernel
  obtain ⟨hok, hrun⟩ := Prod.mk.inj hcomputed
  generalize hadd : ((Router.bare .standard).add heldRoute).2 = outcome at hok
  generalize hd : Route.dispatch heldApp.settings heldRequest heldApp.routes = found at hrun
  cases outcome with
  | error fault => simp [Except.isOk, Except.toBool] at hok
  | ok r =>
      have hroutes : heldApp.routes = [r] := by
        rw [heldApp, Router.routes_add, hadd]
        rfl
      rcases found with fault | destination
      · simp [heldRun] at hrun
      · cases destination with
        | wrongMethod => simp [heldRun] at hrun
        | redirect path => simp [heldRun] at hrun
        | unknown => simp [heldRun] at hrun
        | route s params =>
            -- there is one route, so the request went to it
            obtain rfl : s = r := by
              have hmem := Route.mem_of_dispatch hd
              rwa [hroutes, List.mem_singleton] at hmem
            obtain ⟨inbound, hi, hguarded⟩ := serve_verified hadd hne hd
            rw [heldRun, verification_eq hi] at hrun
            generalize (heldApp.gate.verify heldApp.hooks inbound).exec .fresh = run
              at hrun hguarded
            obtain ⟨outcome, y⟩ := run
            cases outcome with
            | error fault => simp [Except.isOk, Except.toBool] at hrun
            | ok u =>
                obtain ⟨-, hreply, -⟩ := by simpa using hrun
                obtain ⟨hanswer, -, -⟩ := hguarded.answered _ rfl hreply
                have hstopped : ¬ Passes (.ok u, y) := by
                  intro hp
                  rw [hp.2.2] at hreply
                  simp at hreply
                refine ⟨s, params, rfl, hne, rfl, hanswer, ?_, ?_⟩
                · have hhandled := mt hguarded.handled.1 fun h => hstopped h.1
                  simpa using hhandled
                · intro name hname
                  exact hstopped ((hguarded.resolved name).1 hname).1

end App

end ParamGate
