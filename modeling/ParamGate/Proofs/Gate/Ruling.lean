import ParamGate.Proofs.Gate.Registration
import ParamGate.Proofs.Parameter.Problems

/-!
# How a request is decided

A `Ruling` is one of the four ways in which a gate disposes of a request. `Gate.Rules` says which
ruling a request gets, by the endpoint found, the parameters extracted and the problems found, and
in which state the ruling is carried out; `Gate.Stops` lists the faults that leave a request without
a ruling. The main statement, `Gate.verify_takes_one_ruling`, says that `verify` carries out the one
ruling that `Rules` gives and does nothing else, or else stops before any ruling.
-/

namespace ParamGate

open Text

/-- The ways in which a gate disposes of a request. -/
inductive Ruling where
  /-- The chain is continued. -/
  | proceed
  /-- A rejection with this body is sent. -/
  | refuse (body : Value)
  /-- The error hook is told what is wrong. -/
  | tellError (hook : Value) (notice : Notice)
  /-- The success hook is told. -/
  | tellSuccess (hook : Value)

/-- Carries out a ruling. -/
def Ruling.carryOut (hooks : Hooks) : Ruling → Run Exchange Unit
  | .proceed => continueChain
  | .refuse body => send rejectedStatus body
  | .tellError hook notice => hooks.notify hook notice
  | .tellSuccess hook => hooks.notify hook .accepted

/-- What telling a hook does: it is told once, and its actions are carried out. -/
def Exchange.told (y : Exchange) (hooks : Hooks) (hook : Value) (notice : Notice) :
    Except Fault Unit × Exchange :=
  match hook with
  | .hook h =>
      (performAll (hooks.script h notice y)).exec
        { y with events := y.events ++ [.notified h.name notice y.attributes] }
  | v => (.error (.notCallable v.typeName), y)

/-- What carrying out a ruling does in a state without a reply: the chain is continued once, one
reply is sent unless its body has no text, or one hook is told once. -/
def Ruling.outcome (hooks : Hooks) (y : Exchange) : Ruling → Except Fault Unit × Exchange
  | .proceed => (.ok (), { y with continued := y.continued + 1 })
  | .refuse body =>
      match Reply.ofValue rejectedStatus body with
      | .ok reply => (.ok (), { y with reply := some reply })
      | .error fault => (.error fault, y)
  | .tellError hook notice => y.told hooks hook notice
  | .tellSuccess hook => y.told hooks hook .accepted

theorem notify_exec (hooks : Hooks) (hook : Value) (notice : Notice) (y : Exchange) :
    (hooks.notify hook notice).exec y = y.told hooks hook notice := by
  cases hook with
  | hook h => rfl
  | _ => rfl

theorem status_of_ofValue {status : Int} {body : Value} {reply : Reply}
    (h : Reply.ofValue status body = .ok reply) : reply.status = status := by
  unfold Reply.ofValue at h
  split at h
  · rw [← Except.ok.inj h]
    rfl
  · obtain ⟨s, -, rfl⟩ := map_eq_ok_iff.1 h
    rfl

theorem send_exec {y : Exchange} (hy : y.reply = none) (status : Int) (body : Value) :
    (send status body).exec y =
      match Reply.ofValue status body with
      | .ok reply => (.ok (), { y with reply := some reply })
      | .error fault => (.error fault, y) := by
  rw [send, Run.exec_bind_of_ok (Run.exec_get y), hy, sendTo]
  cases Reply.ofValue status body with
  | ok reply => rfl
  | error fault => rfl

/-- Sending changes the reply of a state at most. -/
theorem send_frame (status : Int) (body : Value) (y : Exchange) :
    ∃ reply, ((send status body).exec y).2 = { y with reply := reply } := by
  rw [send, Run.exec_bind_of_ok (Run.exec_get y)]
  cases sendTo y.reply status body with
  | error fault => exact ⟨y.reply, rfl⟩
  | ok reply => exact ⟨reply, rfl⟩

/-- What no action of a script changes, the script does not change either. -/
theorem performAll_unchanged {α : Type} (part : Exchange → α) {actions : List Action}
    (h : ∀ action ∈ actions, ∀ y, part (action.perform.exec y).2 = part y) (y : Exchange) :
    part ((performAll actions).exec y).2 = part y := by
  induction actions generalizing y with
  | nil => rfl
  | cons action actions ih =>
      have hfirst := h action List.mem_cons_self y
      have hrest := ih fun other ho => h other (List.mem_cons_of_mem action ho)
      rcases hx : action.perform.exec y with ⟨outcome, z⟩
      rw [hx] at hfirst
      rw [performAll]
      -- a fault ends the script in the state so far
      cases outcome with
      | ok u => rw [Run.exec_bind_of_ok hx, hrest z, hfirst]
      | error fault => rw [Run.exec_bind_of_error hx, hfirst]

theorem send_events (status : Int) (body : Value) (y : Exchange) :
    ((send status body).exec y).2.events = y.events := by
  obtain ⟨reply, hsent⟩ := send_frame status body y
  rw [hsent]

/-- Actions of hooks leave no events of their own. -/
theorem Action.perform_events (action : Action) (y : Exchange) :
    (action.perform.exec y).2.events = y.events := by
  cases action with
  | next => rfl
  | send body status => exact send_events status body y
  | append name key value =>
      rw [perform, Run.exec_bind_of_ok (Run.exec_get y)]
      cases hc : containerOf y.attributes name with
      | error fault => rfl
      | ok container =>
          rw [Run.exec_bind_of_ok (Run.exec_lift _ _)]
          cases appendUnder container key value with
          | error fault => rfl
          | ok changed => rfl
  | attach name value => rfl
  | fail fault => rfl

theorem performAll_events (actions : List Action) (y : Exchange) :
    ((performAll actions).exec y).2.events = y.events :=
  performAll_unchanged Exchange.events (fun action _ => action.perform_events) y

theorem Ruling.carryOut_exec {hooks : Hooks} {y : Exchange} (hy : y.reply = none)
    (ruling : Ruling) : (ruling.carryOut hooks).exec y = ruling.outcome hooks y := by
  cases ruling with
  | proceed => rfl
  | refuse body => exact send_exec hy rejectedStatus body
  | tellError hook notice => exact notify_exec hooks hook notice y
  | tellSuccess hook => exact notify_exec hooks hook .accepted y

namespace Gate

/-- The ruling on parameters that cannot be extracted. -/
def unreadableRuling (e : Endpoint) (cause : DeclarationError) : Ruling :=
  if e.error.truthy then .tellError e.error (.unreadable cause.message)
  else .refuse (errorBody cause.message (.map []))

/-- The ruling on parameters with problems. -/
def rejectedRuling (e : Endpoint) (problems : Problems) : Ruling :=
  if e.error.truthy then .tellError e.error (.rejected problems)
  else .refuse (rejectionBody e problems)

/-- The ruling on accepted parameters. -/
def acceptedRuling (e : Endpoint) : Ruling :=
  if e.success.truthy then .tellSuccess e.success else .proceed

section Decision

variable (g : Gate) (hooks : Hooks) (r : Inbound) (x : Exchange)

/-- The gate has an endpoint for the request. -/
def Finds (e : Endpoint) : Prop := g.registry.lookup r.path r.method r.version = .ok (some e)

/-- The parameters of the request are checked with these problems, which leaves the state `y`. -/
structure Examines (e : Endpoint) (params : Table Value) (problems : Problems) (y : Exchange) :
    Prop where
  found : g.Finds r e
  extracted : extract e r = .ok params
  checked : (check hooks params e.parameters).onEvents.exec x = (.ok problems, y)

/-- The request is accepted with these parameters, to be attached under a name. -/
structure Accepts (e : Endpoint) (params : Table Value) (name : Codes) (y : Exchange) :
    Prop where
  examined : g.Examines hooks r x e params [] y
  named : e.slot.codes? = some name

/-- The state with the parameters attached under a name and their defaults filled in. -/
def attached (e : Endpoint) (params : Table Value) (name : Codes) (y : Exchange) : Exchange :=
  { y with attributes := y.attributes.set name (.map (fillDefaults e.parameters params)) }

/-- The ruling on a request and the state in which it is carried out. -/
inductive Rules : Ruling → Exchange → Prop
  /-- A request without an endpoint is let through. -/
  | unknown : g.registry.lookup r.path r.method r.version = .ok none → Rules .proceed x
  /-- A mistake in a declaration is met while the parameters are extracted. -/
  | unreadable {e : Endpoint} {cause : DeclarationError} : g.Finds r e →
      extract e r = .error (.declaration cause) → Rules (unreadableRuling e cause) x
  /-- There are problems, and their names can be listed. -/
  | rejected {e : Endpoint} {params : Table Value} {problems : Problems} {y : Exchange}
      {names : List Codes} : g.Examines hooks r x e params problems y → problems ≠ [] →
      Value.texts 0 (Table.keys problems) = .ok names → Rules (rejectedRuling e problems) y
  /-- There are no problems; the parameters are attached before anything else happens. -/
  | accepted {e : Endpoint} {params : Table Value} {name : Codes} {y : Exchange} :
      g.Accepts hooks r x e params name y → Rules (acceptedRuling e) (attached e params name y)

/-- The faults that leave a request without a ruling, and the state in which they do. -/
inductive Stops : Fault → Exchange → Prop
  | lookup {fault : Fault} : g.registry.lookup r.path r.method r.version = .error fault →
      Stops fault x
  | extraction {e : Endpoint} {fault : Fault} : g.Finds r e → extract e r = .error fault →
      (∀ cause, fault ≠ .declaration cause) → Stops fault x
  | checking {e : Endpoint} {params : Table Value} {fault : Fault} {y : Exchange} :
      g.Finds r e → extract e r = .ok params →
      (check hooks params e.parameters).onEvents.exec x = (.error fault, y) → Stops fault y
  | listing {e : Endpoint} {params : Table Value} {problems : Problems} {fault : Fault}
      {y : Exchange} : g.Examines hooks r x e params problems y → problems ≠ [] →
      Value.texts 0 (Table.keys problems) = .error fault → Stops fault y
  | naming {e : Endpoint} {params : Table Value} {y : Exchange} :
      g.Examines hooks r x e params [] y → e.slot.codes? = none →
      Stops (.attributeName e.slot.typeName) y

end Decision

/-! ## The ruling as a run -/

section Run

variable (hooks : Hooks)

/-- Finds the ruling on checked parameters. -/
def ruleOn (e : Endpoint) (params : Table Value) : Problems → Run Exchange Ruling
  | [] => do
      attach e.slot (fillDefaults e.parameters params)
      pure (acceptedRuling e)
  | problems => do
      let _ ← Run.lift (Value.texts 0 (Table.keys problems))
      pure (rejectedRuling e problems)

/-- Finds the ruling on a request of an endpoint. -/
def ruleAt (e : Endpoint) (r : Inbound) : Run Exchange Ruling :=
  match extract e r with
  | .error (.declaration cause) => pure (unreadableRuling e cause)
  | .error fault => throw fault
  | .ok params => do
      let problems ← (check hooks params e.parameters).onEvents
      ruleOn e params problems

/-- Finds the ruling on a request. -/
def rule (g : Gate) (r : Inbound) : Run Exchange Ruling := do
  let found ← Run.lift (g.registry.lookup r.path r.method r.version)
  match found with
  | none => pure .proceed
  | some e => ruleAt hooks e r

theorem refuseUnreadable_eq (e : Endpoint) (cause : DeclarationError) :
    refuseUnreadable hooks e cause.message = (unreadableRuling e cause).carryOut hooks := by
  unfold refuseUnreadable unreadableRuling
  split
  · rfl
  · rfl

theorem reject_eq (e : Endpoint) (problems : Problems) :
    reject hooks e problems =
      Run.lift (Value.texts 0 (Table.keys problems)) >>= fun _ =>
        (rejectedRuling e problems).carryOut hooks := by
  unfold reject rejectedRuling
  apply bind_congr
  intro names
  split
  · rfl
  · rfl

theorem accept_eq (e : Endpoint) (params : Table Value) :
    accept hooks e params =
      attach e.slot (fillDefaults e.parameters params) >>= fun _ =>
        (acceptedRuling e).carryOut hooks := by
  unfold accept acceptedRuling
  apply bind_congr
  intro _
  split
  · rfl
  · rfl

theorem verifyAt_eq (e : Endpoint) (r : Inbound) :
    verifyAt hooks e r = ruleAt hooks e r >>= fun ruling => ruling.carryOut hooks := by
  unfold verifyAt ruleAt
  -- both sides branch alike; the last action of each branch is moved behind the choice
  cases extract e r with
  | error fault =>
      cases fault with
      | declaration cause => rw [pure_bind]; exact refuseUnreadable_eq hooks e cause
      | _ => rfl
  | ok params =>
      simp only [bind_assoc]
      apply bind_congr
      intro problems
      cases problems with
      | nil =>
          rw [ruleOn, bind_assoc]
          simp only [pure_bind]
          exact accept_eq hooks e params
      | cons p ps =>
          rw [ruleOn, bind_assoc]
          · simp only [pure_bind]
            exact reject_eq hooks e (p :: ps)
          · simp

/-- To decide a request is to find its ruling and to carry that out. -/
theorem verify_eq (g : Gate) (r : Inbound) :
    g.verify hooks r = g.rule hooks r >>= fun ruling => ruling.carryOut hooks := by
  unfold verify rule
  rw [bind_assoc]
  apply bind_congr
  intro found
  cases found with
  | none => rw [pure_bind]; rfl
  | some e => exact verifyAt_eq hooks e r

end Run

section Relation

variable {g : Gate} {hooks : Hooks} {r : Inbound} {x y : Exchange}

theorem rule_exec_of_finds {e : Endpoint} (h : g.Finds r e) :
    (g.rule hooks r).exec x = (ruleAt hooks e r).exec x := by
  rw [rule, Run.exec_bind_of_ok (by rw [Run.exec_lift, h])]

theorem rule_exec_of_examines {e : Endpoint} {params : Table Value} {problems : Problems}
    (h : g.Examines hooks r x e params problems y) :
    (g.rule hooks r).exec x = (ruleOn e params problems).exec y := by
  rw [rule_exec_of_finds h.found, ruleAt, h.extracted]
  exact Run.exec_bind_of_ok h.checked

theorem attach_exec {slot : Value} {name : Codes} (h : slot.codes? = some name)
    (params : Table Value) :
    (attach slot params).exec y =
      (.ok (), { y with attributes := y.attributes.set name (.map params) }) := by
  rw [attach, h]
  rfl

/-- Finding the ruling gives what the relation gives. -/
theorem rule_exec_of_rules {ruling : Ruling} (h : g.Rules hooks r x ruling y) :
    (g.rule hooks r).exec x = (.ok ruling, y) := by
  cases h with
  | unknown hl => rw [rule, Run.exec_bind_of_ok (by rw [Run.exec_lift, hl])]; rfl
  | unreadable hf he => rw [rule_exec_of_finds hf, ruleAt, he]; rfl
  | @rejected e params problems y names hx hne ht =>
      rw [rule_exec_of_examines hx]
      -- a rejection has problems, so the branch without any is not taken
      cases problems with
      | nil => exact absurd rfl hne
      | cons p ps => exact Run.exec_bind_of_ok (by rw [Run.exec_lift, ht])
  | accepted ha =>
      rw [rule_exec_of_examines ha.examined]
      exact Run.exec_bind_of_ok (attach_exec ha.named _)

/-- What stops a request is raised while its ruling is sought. -/
theorem rule_exec_of_stops {fault : Fault} (h : g.Stops hooks r x fault y) :
    (g.rule hooks r).exec x = (.error fault, y) := by
  cases h with
  | lookup hl => exact Run.exec_bind_of_error (by rw [Run.exec_lift, hl])
  | @extraction e fault hf he hne =>
      rw [rule_exec_of_finds hf, ruleAt, he]
      -- a mistake in a declaration is ruled on and does not stop the request
      cases fault with
      | declaration cause => exact absurd rfl (hne cause)
      | _ => rfl
  | checking hf he hc =>
      rw [rule_exec_of_finds hf, ruleAt, he]
      exact Run.exec_bind_of_error hc
  | @listing e params problems fault y hx hne ht =>
      rw [rule_exec_of_examines hx]
      cases problems with
      | nil => exact absurd rfl hne
      | cons p ps => exact Run.exec_bind_of_error (by rw [Run.exec_lift, ht])
  | naming hx hn =>
      rw [rule_exec_of_examines hx]
      exact Run.exec_bind_of_error (by rw [attach, hn]; rfl)

theorem rules_or_stops_of_examines {e : Endpoint} {params : Table Value} {problems : Problems}
    (h : g.Examines hooks r x e params problems y) :
    (∃ ruling z, g.Rules hooks r x ruling z) ∨ ∃ fault z, g.Stops hooks r x fault z := by
  -- a rejection lists the names of its problems, an acceptance needs the name of its slot
  by_cases hp : problems = []
  · subst hp
    cases hn : e.slot.codes? with
    | none => exact Or.inr ⟨_, _, .naming h hn⟩
    | some name => exact Or.inl ⟨_, _, .accepted ⟨h, hn⟩⟩
  · cases ht : Value.texts 0 (Table.keys problems) with
    | error fault => exact Or.inr ⟨_, _, .listing h hp ht⟩
    | ok names => exact Or.inl ⟨_, _, .rejected h hp ht⟩

/-- Every request has a ruling or a fault that keeps it from having one. -/
theorem rules_or_stops (g : Gate) (hooks : Hooks) (r : Inbound) (x : Exchange) :
    (∃ ruling y, g.Rules hooks r x ruling y) ∨ ∃ fault y, g.Stops hooks r x fault y := by
  -- each stage settles the request or hands it on to the next
  cases hl : g.registry.lookup r.path r.method r.version with
  | error fault => exact Or.inr ⟨fault, x, .lookup hl⟩
  | ok found =>
      cases found with
      | none => exact Or.inl ⟨_, _, .unknown hl⟩
      | some e =>
          cases he : extract e r with
          | error fault =>
              by_cases hd : ∃ cause, fault = .declaration cause
              · obtain ⟨cause, rfl⟩ := hd
                exact Or.inl ⟨_, _, .unreadable hl he⟩
              · exact Or.inr ⟨fault, x, .extraction hl he fun cause hf => hd ⟨cause, hf⟩⟩
          | ok params =>
              rcases hc : (check hooks params e.parameters).onEvents.exec x with ⟨outcome, y⟩
              cases outcome with
              | error fault => exact Or.inr ⟨fault, y, .checking hl he hc⟩
              | ok problems => exact rules_or_stops_of_examines ⟨hl, he, hc⟩

/-- The ruling and its state are fixed. -/
theorem rules_unique {a b : Ruling} {z : Exchange} (ha : g.Rules hooks r x a y)
    (hb : g.Rules hooks r x b z) : a = b ∧ y = z := by
  -- the relation is the graph of a computation, so it gives one result
  have h := (rule_exec_of_rules ha).symm.trans (rule_exec_of_rules hb)
  obtain ⟨hab, hyz⟩ := Prod.mk.inj h
  exact ⟨Except.ok.inj hab, hyz⟩

theorem not_stops_of_rules {a : Ruling} (ha : g.Rules hooks r x a y) (fault : Fault)
    (z : Exchange) : ¬ g.Stops hooks r x fault z := by
  intro hs
  have h := (rule_exec_of_rules ha).symm.trans (rule_exec_of_stops hs)
  simp at h

end Relation

/-! ## What happens before the ruling -/

/-- From the first state to the second nothing was sent, continued or told to an error or success
hook; only validate hooks were asked. -/
structure Silent (x y : Exchange) : Prop where
  reply : y.reply = x.reply
  continued : y.continued = x.continued
  asked : ∃ asked, y.events = x.events ++ asked ∧ ∀ event ∈ asked, event.IsJudged

theorem Silent.refl (x : Exchange) : Silent x x :=
  ⟨rfl, rfl, [], (List.append_nil _).symm, by simp⟩

section Frame

variable {g : Gate} {hooks : Hooks} {r : Inbound} {x y : Exchange}

/-- Checking leaves everything but the events as it was. -/
theorem check_silent {params : Table Value} {declared : Table Definition}
    {outcome : Except Fault Problems}
    (h : (check hooks params declared).onEvents.exec x = (outcome, y)) :
    Silent x y ∧ y.attributes = x.attributes := by
  rw [Run.exec_onEvents] at h
  obtain ⟨-, rfl⟩ := Prod.mk.inj h
  exact ⟨⟨rfl, rfl, onlyAsks_check hooks params declared x.events⟩, rfl⟩

theorem silent_of_rules {ruling : Ruling} (h : g.Rules hooks r x ruling y) : Silent x y := by
  cases h with
  | unknown _ => exact .refl x
  | unreadable _ _ => exact .refl x
  | rejected hx _ _ => exact (check_silent hx.checked).1
  | accepted ha =>
      -- attaching the parameters touches nothing but the attributes
      obtain ⟨hs, -⟩ := check_silent ha.examined.checked
      exact ⟨hs.reply, hs.continued, hs.asked⟩

/-- A request that stops is left as it was, but for the validate hooks that were asked. -/
theorem silent_of_stops {fault : Fault} (h : g.Stops hooks r x fault y) :
    Silent x y ∧ y.attributes = x.attributes := by
  cases h with
  | lookup _ => exact ⟨.refl x, rfl⟩
  | extraction _ _ _ => exact ⟨.refl x, rfl⟩
  | checking _ _ hc => exact check_silent hc
  | listing hx _ _ => exact check_silent hx.checked
  | naming hx _ => exact check_silent hx.checked

/-- An accepted request gets exactly the attribute that its endpoint names. -/
theorem attributes_of_accepts {ruling : Ruling} (h : g.Rules hooks r x ruling y) {e : Endpoint}
    {params : Table Value} {name : Codes} {z : Exchange}
    (ha : g.Accepts hooks r x e params name z) :
    y.attributes.get? name = some (.map (fillDefaults e.parameters params)) ∧
      ∀ other, name ≠ other → y.attributes.get? other = x.attributes.get? other := by
  -- the request has one ruling, so it was ruled on in the state of its acceptance
  obtain ⟨-, rfl⟩ := rules_unique h (.accepted ha)
  obtain ⟨-, hz⟩ := check_silent ha.examined.checked
  constructor
  · exact Attributes.get?_set_self _ _ _
  · intro other ho
    rw [← hz]
    exact Attributes.get?_set_of_ne _ _ ho

/-- Every other request keeps its attributes. -/
theorem attributes_of_not_accepts {ruling : Ruling} (h : g.Rules hooks r x ruling y)
    (hn : ∀ e params name z, ¬ g.Accepts hooks r x e params name z) :
    y.attributes = x.attributes := by
  cases h with
  | unknown _ => rfl
  | unreadable _ _ => rfl
  | rejected hx _ _ => exact (check_silent hx.checked).2
  | accepted ha => exact absurd ha (hn _ _ _ _)

end Frame

/-! ## One ruling -/

section Main

variable (g : Gate) (hooks : Hooks) (r : Inbound) (x : Exchange)

/-- One ruling decides the request: it is fixed by `Rules`, `verify` does what the ruling does in
the state `y` and nothing else, and the parameters are attached exactly if they are accepted. -/
structure Decided (ruling : Ruling) (y : Exchange) : Prop where
  rules : g.Rules hooks r x ruling y
  unique : ∀ other z, g.Rules hooks r x other z → other = ruling ∧ z = y
  verify_exec : (g.verify hooks r).exec x = ruling.outcome hooks y
  silent : Silent x y
  attached : ∀ e params name z, g.Accepts hooks r x e params name z →
    y.attributes.get? name = some (.map (fillDefaults e.parameters params)) ∧
      ∀ other, name ≠ other → y.attributes.get? other = x.attributes.get? other
  unattached : (∀ e params name z, ¬ g.Accepts hooks r x e params name z) →
    y.attributes = x.attributes

/-- A fault stops the request in the state `y`: no ruling decides it and nothing is attached. -/
structure Stopped (fault : Fault) (y : Exchange) : Prop where
  stops : g.Stops hooks r x fault y
  unruled : ∀ ruling z, ¬ g.Rules hooks r x ruling z
  verify_exec : (g.verify hooks r).exec x = (.error fault, y)
  silent : Silent x y
  unattached : y.attributes = x.attributes

variable {g hooks r x}

/-- A ruling is carried out in its state. -/
theorem verify_exec_of_rules (hx : x.reply = none) {ruling : Ruling} {y : Exchange}
    (h : g.Rules hooks r x ruling y) :
    (g.verify hooks r).exec x = ruling.outcome hooks y := by
  rw [verify_eq, Run.exec_bind_of_ok (rule_exec_of_rules h)]
  exact ruling.carryOut_exec ((silent_of_rules h).reply.trans hx)

theorem verify_exec_of_stops {fault : Fault} {y : Exchange} (h : g.Stops hooks r x fault y) :
    (g.verify hooks r).exec x = (.error fault, y) := by
  rw [verify_eq, Run.exec_bind_of_error (rule_exec_of_stops h)]

theorem decided_of_rules (hx : x.reply = none) {ruling : Ruling} {y : Exchange}
    (h : g.Rules hooks r x ruling y) : g.Decided hooks r x ruling y where
  rules := h
  unique _ _ ho := rules_unique ho h
  verify_exec := verify_exec_of_rules hx h
  silent := silent_of_rules h
  attached _ _ _ _ := attributes_of_accepts h
  unattached := attributes_of_not_accepts h

theorem stopped_of_stops {fault : Fault} {y : Exchange} (h : g.Stops hooks r x fault y) :
    g.Stopped hooks r x fault y where
  stops := h
  unruled _ _ hr := not_stops_of_rules hr _ _ h
  verify_exec := verify_exec_of_stops h
  silent := (silent_of_stops h).1
  unattached := (silent_of_stops h).2

/-- Whatever is registered, whatever a request brings and however the hooks behave, `verify` takes
the one terminal action that the ruling on the request fixes, or a fault escapes before any. -/
theorem verify_takes_one_ruling (g : Gate) (hooks : Hooks) (r : Inbound) {x : Exchange}
    (hx : x.reply = none) :
    (∃ ruling y, g.Decided hooks r x ruling y) ∨ ∃ fault y, g.Stopped hooks r x fault y := by
  rcases rules_or_stops g hooks r x with ⟨ruling, y, h⟩ | ⟨fault, y, h⟩
  · exact Or.inl ⟨ruling, y, decided_of_rules hx h⟩
  · exact Or.inr ⟨fault, y, stopped_of_stops h⟩

end Main

/-! ### A hook that is told of a missing number -/

def refusingHook : Hook := ⟨"refuse", 0⟩

/-- The endpoint with one bounded number, with a hook for errors. -/
def refusingEndpoint : Endpoint := { boundedEndpoint 3 false with error := .hook refusingHook }

/-- The gate with that endpoint. -/
def refusingGate : Gate :=
  ⟨boundedDefaults false,
    Registry.empty.put ⟨.string "/items", .string "GET", .null⟩ refusingEndpoint⟩

/-- What is found about the number where it is not given. -/
def unsetNumber : Problems := [(.string "n", ⟨.number, .notSet⟩)]

theorem refusing_examines (hooks : Hooks) :
    refusingGate.Examines hooks (boundedRequest .null) .fresh refusingEndpoint
      [(.string "n", .null)] unsetNumber .fresh where
  found := by
    show Registry.lookup _ (.string "/items") (.string "GET") .null = _
    rw [Registry.lookup, ofValues_items]
    rfl
  extracted := bounded_extract 3 false (v := .null) rfl
  checked := rfl

/-- The hook is told once, and its reply is the only one: the chain is not continued, and nothing is
attached. -/
theorem verify_takes_one_ruling_refused :
    Exchange.fresh.reply = none ∧
      (refusingGate.verify (Hooks.ofList [.acting [.send .null 400]]) (boundedRequest .null)).exec
        .fresh =
        (.ok (), ⟨[], some ⟨400, none, ""⟩, 0, [.notified "refuse" (.rejected unsetNumber) []]⟩) := by
  have hrules := Rules.rejected (refusing_examines (Hooks.ofList [.acting [.send .null 400]]))
    (by simp [unsetNumber]) rfl
  refine ⟨rfl, ?_⟩
  rcases verify_takes_one_ruling refusingGate (Hooks.ofList [.acting [.send .null 400]])
    (boundedRequest .null) (x := .fresh) rfl with ⟨ruling, y, hd⟩ | ⟨fault, y, hs⟩
  · obtain ⟨rfl, rfl⟩ := hd.unique _ _ hrules
    exact hd.verify_exec
  · exact absurd hrules (hs.unruled _ _)

end Gate

end ParamGate
