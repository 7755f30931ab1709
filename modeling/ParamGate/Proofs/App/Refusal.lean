import ParamGate.Proofs.App.Routes
import ParamGate.Proofs.Route.Filling

/-!
# What a refused request is told

Outside development an application without hooks tells a refused request nothing. Every reply of
status 422 is empty and every reply of status 500 is `App.failureAnswer`, whatever the request, the
endpoint, the values and the failure were (`App.Production.refusals`); the refusals of any two
requests are therefore equal, even of two applications.
-/

namespace ParamGate.App

/-- The reply to every failure outside development. -/
def failureAnswer : Reply :=
  ⟨500, some jsonType,
    "\x7b\"error\":\"Internal server error\",\"params\":\x7b\x7d\x7d"⟩

/-- Applications outside development that answer invalid arguments and failures themselves, on a
gate that routes without hooks filled. Nothing is said about the routes and their handlers. -/
structure Production (a : App) : Prop where
  handlesFailures : a.handlesFailures = true
  settings : a.settings.isDevelopment = false
  filled : ∃ order slot, Gate.FilledByRoutes order slot a.gate

section Replies

variable {a : App}

/-- What is built of a router on such a gate is such an application. -/
theorem production_of_ofRouter {router : Router} {front : String} {settings : Settings}
    {hooks : Hooks} {framework : Framework} {infoPath : Option String} {order : List String}
    {slot : String}
    (h : ofRouter router front settings hooks true framework infoPath = .ok a)
    (hs : settings.isDevelopment = false) (hg : Gate.FilledByRoutes order slot router.gate) :
    a.Production := by
  obtain ⟨own, routes, -, -, ha⟩ := ofRouter_eq_ok h
  have hgate : a.gate = router.gate := by rw [ha]
  have hsettings : a.settings = settings := by rw [ha]
  refine ⟨by rw [ha], ?_, order, slot, ?_⟩
  · rw [hsettings]
    exact hs
  · rw [hgate]
    exact hg

/-- Invalid arguments are answered without a body. -/
theorem invalidReply_eq {s : Settings} (hs : s.isDevelopment = false) (findings : List Value) :
    invalidReply s findings = .ok (.empty 422) := by
  rw [invalidReply, hs]
  rfl

/-- A failure is answered without its text. -/
theorem failureReply_eq {s : Settings} (hs : s.isDevelopment = false)
    (text : Except Fault Text.Codes) : failureReply s text = .ok failureAnswer := by
  rw [failureReply, hs]
  rfl

/-- Replies of which those to refused requests are the fixed ones. -/
def Told (reply : Reply) : Prop :=
  (reply.status = 422 → reply = .empty 422) ∧ (reply.status = 500 → reply = failureAnswer)

theorem told_empty : Told (.empty 422) := ⟨fun _ => rfl, fun h => by simp [Reply.empty] at h⟩

theorem told_failureAnswer : Told failureAnswer :=
  ⟨fun h => by simp [failureAnswer] at h, fun _ => rfl⟩

theorem told_of_status {reply : Reply} (h₁ : reply.status ≠ 422) (h₂ : reply.status ≠ 500) :
    Told reply :=
  ⟨fun h => absurd h h₁, fun h => absurd h h₂⟩

theorem told_ofValue {status : Int} {body : Value} {reply : Reply} (h₁ : status ≠ 422)
    (h₂ : status ≠ 500) (h : Reply.ofValue status body = .ok reply) : Told reply := by
  have hs := status_of_ofValue h
  exact told_of_status (by rw [hs]; exact h₁) (by rw [hs]; exact h₂)

theorem told_redirect : Told (.empty 307) := told_of_status (by decide) (by decide)

theorem told_handled : Told handledReply := told_of_status (by decide) (by decide)

theorem told_listing {registry : Registry Endpoint} {reply : Reply}
    (h : listingReply registry = .ok reply) : Told reply := by
  obtain ⟨infos, -, h⟩ := bind_eq_ok_iff.1 h
  obtain ⟨data, -, h⟩ := bind_eq_ok_iff.1 h
  exact told_ofValue (by decide) (by decide) h

theorem told_page {p : Page} {reply : Reply} (h : a.pageReply p = .ok reply) : Told reply := by
  obtain ⟨text, -, rfl⟩ := map_eq_ok_iff.1 h
  have hstatus : (200 : Int) ≠ 422 ∧ (200 : Int) ≠ 500 := by decide
  exact told_of_status hstatus.1 hstatus.2

end Replies

/-! ## Serving -/

/-- Outcomes that tell a refused request nothing, and a failed one that it failed. -/
structure Discreet (o : Outcome) : Prop where
  told : Told o.reply
  raised : ∀ fault, o.raised = some fault → o.reply = failureAnswer

section Serve

variable {a : App}

theorem Production.discreet_failed (ha : a.Production) (events : List Event) (fault : Fault) :
    Discreet (a.failed events fault) := by
  have hreply : (a.failed events fault).reply = failureAnswer := by
    unfold failed
    rw [ha.handlesFailures, if_pos rfl, failureReply_eq ha.settings]
  refine ⟨?_, fun _ _ => hreply⟩
  rw [hreply]
  exact told_failureAnswer

theorem Production.discreet_replied (ha : a.Production) (events : List Event)
    (reached : Option Reached) {reply : Except Fault Reply} (h : ∀ r, reply = .ok r → Told r) :
    Discreet (a.replied events reached reply) := by
  cases reply with
  | ok r => exact ⟨h r rfl, fun _ hf => by simp [replied] at hf⟩
  | error fault => exact ha.discreet_failed events fault

theorem Production.discreet_count (ha : a.Production) (events : List Event) (part : String)
    (problem : Count.Problem) (input : Value) :
    Discreet (a.replied events none (a.countReply part problem input)) := by
  refine ha.discreet_replied events none ?_
  intro r hr
  unfold countReply at hr
  simp only [ha.handlesFailures, if_true, invalidReply_eq ha.settings] at hr
  rw [← Except.ok.inj hr]
  exact told_empty

theorem Production.discreet_handled (ha : a.Production) (events : List Event)
    (reached : Option Reached) : Discreet (a.replied events reached (.ok handledReply)) := by
  refine ha.discreet_replied events reached ?_
  intro r hr
  rw [← Except.ok.inj hr]
  exact told_handled

theorem Discreet.byHandler {o : Outcome} (h : Discreet o) : Discreet o.byHandler :=
  ⟨h.told, h.raised⟩

theorem Production.discreet_redirected (ha : a.Production) (path : String) (q : Http.Request) :
    Discreet (a.redirected path q) := by
  unfold redirected
  split
  · exact ⟨told_redirect, fun _ hf => by simp [replied] at hf⟩
  · exact ha.discreet_failed _ _

theorem Production.discreet_handle (ha : a.Production) (r : Route) (params : Table Value)
    (q : Http.Request) (x : Exchange) : Discreet (a.handle r params q x) := by
  unfold handle
  split
  · exact (ha.discreet_handled _ _).byHandler
  · split
    · exact (ha.discreet_handled _ _).byHandler
    · exact ha.discreet_count _ _ _ _
  · exact (ha.discreet_failed _ _).byHandler
  · exact (ha.discreet_replied _ _ fun reply hr => told_listing hr).byHandler
  · exact (ha.discreet_replied _ _ fun reply hr => told_page hr).byHandler

/-- Verification refuses with nothing said; a request that was neither answered nor continued does
not occur. -/
theorem Production.told_verification (ha : a.Production) {r : Route} {params : Table Value}
    {q : Http.Request} {x y : Exchange} {outcome : Except Fault Unit} (hx : x.reply = none)
    (h : (a.verification r params q).exec x = (outcome, y)) :
    (∀ reply, passageOf outcome y = .rejected reply → Told reply) ∧
      (passageOf outcome y = .passed → y.reply = none) := by
  obtain ⟨order, slot, hfilled⟩ := ha.filled
  cases outcome with
  | error fault =>
      exact ⟨fun _ hp => by simp [passageOf] at hp, fun hp => by simp [passageOf] at hp⟩
  | ok u =>
      -- reading the request leaves the exchange as it is, so the gate starts without a reply
      obtain ⟨inbound, t, hi, hg⟩ := Run.exec_bind_eq_ok_iff.1 h
      rw [Run.exec_lift] at hi
      obtain ⟨-, rfl⟩ := Prod.mk.inj hi
      rcases hfilled.hookless.verify_eq_ok hx hg with ⟨hr, hc⟩ | ⟨hr, -⟩
      · have hne : ¬ y.continued = 0 := by
          rw [hc]
          exact Nat.succ_ne_zero _
        simp [passageOf, hr, hne]
      · have hp : passageOf (.ok u) y = .rejected (.empty rejectedStatus) := by
          simp only [passageOf, hr]
        rw [hp]
        refine ⟨?_, fun h => by simp at h⟩
        intro reply hreply
        rw [← Passage.rejected.inj hreply]
        exact told_empty

/-- Whatever the dependencies of a route are, what they answer says nothing. -/
theorem Production.told_resolve (ha : a.Production) (r : Route) (params : Table Value)
    (q : Http.Request) {dependencies : List Dependency} {x y : Exchange} {reply : Reply}
    (hx : x.reply = none) (h : a.resolve r params q x dependencies = (.rejected reply, y)) :
    Told reply := by
  induction dependencies generalizing x with
  | nil => simp [resolve] at h
  | cons dependency rest ih =>
      cases dependency with
      | named name =>
          rw [resolve] at h
          refine ih ?_ h
          exact hx
      | verification =>
          rcases hv : (a.verification r params q).exec x with ⟨outcome, z⟩
          obtain ⟨htold, hpassed⟩ := ha.told_verification hx hv
          rw [resolve, hv] at h
          simp only at h
          split at h
          -- what passes has no reply yet, so the other dependencies start as this one did
          · rename_i hp
            exact ih (hpassed hp) h
          · obtain ⟨hp, -⟩ := Prod.mk.inj h
            exact htold reply hp

/-- A route answers with nothing said, and a request that its dependencies let through is
handled. -/
theorem Production.discreet_serveRoute (ha : a.Production) (r : Route) (params : Table Value)
    (q : Http.Request) : Discreet (a.serveRoute r params q) := by
  unfold serveRoute
  split
  · exact ha.discreet_handle _ _ _ _
  · rename_i reply x hr
    have htold : Told reply := ha.told_resolve r params q rfl hr
    refine ha.discreet_replied _ _ ?_
    intro other ho
    rw [← Except.ok.inj ho]
    exact htold
  · exact ha.discreet_failed _ _

theorem Production.discreet_serve (ha : a.Production) (q : Http.Request) :
    Discreet (a.serve q) := by
  unfold serve
  split
  · exact ha.discreet_failed _ _
  · exact ha.discreet_replied _ _ fun reply hr => told_ofValue (by decide) (by decide) hr
  · exact ha.discreet_redirected _ _
  · exact ha.discreet_replied _ _ fun reply hr => told_ofValue (by decide) (by decide) hr
  · exact ha.discreet_serveRoute _ _ _

/-- Outside development and without hooks, a refused request learns nothing: rejections and invalid
arguments are answered by the empty reply, failures by one fixed reply, and what refuses a request
of one application cannot be told from what refuses another request of the same or another
application. No mistake in a declaration is left to be reported. -/
theorem Production.refusals {a b : App} (ha : a.Production) (hb : b.Production) :
    (∀ q, ((a.serve q).reply.status = 422 → (a.serve q).reply = .empty 422) ∧
      ((a.serve q).reply.status = 500 → (a.serve q).reply = failureAnswer) ∧
      ∀ fault, (a.serve q).raised = some fault → (a.serve q).reply = failureAnswer) ∧
    (∀ r x y reply, x.reply = none → (a.gate.verify a.hooks r).exec x = (.ok (), y) →
      y.reply = some reply → reply = .empty 422) ∧
    (∀ findings, invalidReply a.settings findings = .ok (.empty 422)) ∧
    (∀ text, failureReply a.settings text = .ok failureAnswer) ∧
    (∀ r e cause, a.gate.Finds r e → extract e r ≠ .error (.declaration cause)) ∧
    ∀ q q', ((a.serve q).reply.status = 422 ∧ (b.serve q').reply.status = 422 ∨
      (a.serve q).reply.status = 500 ∧ (b.serve q').reply.status = 500) →
      (a.serve q).reply = (b.serve q').reply := by
  obtain ⟨order, slot, hfilled⟩ := ha.filled
  have hgate := hfilled.hookless
  refine ⟨?_, ?_, invalidReply_eq ha.settings, failureReply_eq ha.settings, ?_, ?_⟩
  · intro q
    have hq := ha.discreet_serve q
    exact ⟨hq.told.1, hq.told.2, hq.raised⟩
  · intro r x y reply hx hv hr
    rcases hgate.verify_eq_ok hx hv with ⟨hy, -⟩ | ⟨hy, -⟩
    · rw [hy] at hr
      simp at hr
    · exact (Option.some.inj (hy.symm.trans hr)).symm
  · intro r e cause hf
    exact hgate.extract_ne_declaration hf cause
  · intro q q' hs
    obtain ⟨ha422, ha500⟩ := (ha.discreet_serve q).told
    obtain ⟨hb422, hb500⟩ := (hb.discreet_serve q').told
    -- both replies are equal to the fixed one of their status
    rcases hs with ⟨h, h'⟩ | ⟨h, h'⟩
    · rw [ha422 h, hb422 h']
    · rw [ha500 h, hb500 h']

end Serve

/-! ## Two applications that refuse -/

/-- A router with the route of a bounded number. -/
def boundedRouter (max : Int) : Router :=
  (Router.add ⟨.ofDefaults (Gate.boundedDefaults false), "", []⟩
    ⟨0, "/items", .map (Gate.boundedFields max), .null, [], .null, [], .arguments none⟩).1

/-- The application of that router. -/
def boundedApp (max : Int) : Except Fault App :=
  ofRouter (boundedRouter max) "" .standard (Hooks.ofList []) true .bare none

theorem filled_bounded (max : Int) :
    Gate.FilledByRoutes standardOrder standardSlot (boundedRouter max).gate := by
  unfold boundedRouter
  refine .add .start ?_
  exact Endpoint.hooklessDeclaration_parametersOnly (Gate.bounded_hookless max)

theorem production_bounded {max : Int} {a : App} (h : boundedApp max = .ok a) : a.Production :=
  production_of_ofRouter h rfl (filled_bounded max)

/-- A number above the bound of one application and a missing number in another are refused
alike. -/
theorem refusals_bounded :
    ∃ a b : App, boundedApp 3 = .ok a ∧ boundedApp 7 = .ok b ∧ a.Production ∧ b.Production ∧
      (a.serve ⟨"GET", "/items", [110, 61, 53], [], []⟩).reply.status = 422 ∧
      (b.serve ⟨"GET", "/items", [], [], []⟩).reply.status = 422 ∧
      (a.serve ⟨"GET", "/items", [110, 61, 53], [], []⟩).reply =
        (b.serve ⟨"GET", "/items", [], [], []⟩).reply := by
  -- the first query is `n=5`, the second is empty
  have hlarge : (boundedApp 3).toOption.map (fun a =>
      (a.serve ⟨"GET", "/items", [110, 61, 53], [], []⟩).reply.status) = some 422 := by
    decide +kernel
  have hmissing : (boundedApp 7).toOption.map (fun a =>
      (a.serve ⟨"GET", "/items", [], [], []⟩).reply.status) = some 422 := by
    decide +kernel
  cases ha : boundedApp 3 with
  | error fault => simp [ha, Except.toOption] at hlarge
  | ok a =>
      cases hb : boundedApp 7 with
      | error fault => simp [hb, Except.toOption] at hmissing
      | ok b =>
          have ha422 : (a.serve ⟨"GET", "/items", [110, 61, 53], [], []⟩).reply.status = 422 := by
            simpa [ha, Except.toOption] using hlarge
          have hb422 : (b.serve ⟨"GET", "/items", [], [], []⟩).reply.status = 422 := by
            simpa [hb, Except.toOption] using hmissing
          have hpa := production_bounded ha
          have hpb := production_bounded hb
          obtain ⟨-, -, -, -, -, hequal⟩ := Production.refusals hpa hpb
          exact ⟨a, b, rfl, rfl, hpa, hpb, ha422, hb422, hequal _ _ (Or.inl ⟨ha422, hb422⟩)⟩

end ParamGate.App
