import ParamGate.App.Basic
import ParamGate.Proofs.Gate.Acceptance
import ParamGate.Proofs.Gate.History

/-!
# The arguments of a handler

Verification attaches the parameters under the slot of the endpoint, and a handler reads them back
from the slot of the settings. The two slots are found apart: the endpoint takes the standard slot
where its declaration and the defaults give none, the reader does not. The main statement,
`App.arguments_of_accepted`, says that a handler gets the map that was attached unless the settings
name no slot, and that it gets nothing of it then.

Between attaching and reading only the success hook runs. `Action.Spares` says that an action leaves
an attribute alone, and `performAll_spares` carries that from one action to a script.
-/

namespace ParamGate

open Text

/-! ## Attributes that stay -/

/-- The action sets no attribute of this name. -/
def Action.Spares (name : Codes) : Action → Prop
  | .append other _ _ => codes other ≠ name
  | .attach other _ => codes other ≠ name
  | _ => True

theorem Action.perform_spares {name : Codes} {action : Action} (h : action.Spares name)
    (y : Exchange) : (action.perform.exec y).2.attributes.get? name = y.attributes.get? name := by
  cases action with
  | next => rfl
  | send body status =>
      obtain ⟨reply, hsent⟩ := send_frame status body y
      rw [perform, hsent]
  | append other key value =>
      rw [perform, Run.exec_bind_of_ok (Run.exec_get y)]
      cases hc : containerOf y.attributes other with
      | error fault => rfl
      | ok container =>
          rw [Run.exec_bind_of_ok (Run.exec_lift _ _)]
          cases appendUnder container key value with
          | error fault => rfl
          | ok changed => exact Attributes.get?_set_of_ne _ _ h
  | attach other value => exact Attributes.get?_set_of_ne _ _ h
  | fail fault => rfl

theorem performAll_spares {name : Codes} {actions : List Action}
    (h : ∀ action ∈ actions, action.Spares name) (y : Exchange) :
    ((performAll actions).exec y).2.attributes.get? name = y.attributes.get? name :=
  performAll_unchanged (fun z => z.attributes.get? name)
    (fun action ha => Action.perform_spares (h action ha)) y

namespace Gate

variable {h : Gate} {hooks : Hooks} {r : Inbound} {x y : Exchange} {e : Endpoint}
  {params : Table Value} {name other : Codes}

/-- No success hook, told about the request that was accepted, sets the attribute. -/
def SuccessSpares (hooks : Hooks) (e : Endpoint) (params : Table Value) (name : Codes)
    (y : Exchange) (other : Codes) : Prop :=
  ∀ k, e.success = .hook k →
    ∀ action ∈ hooks.script k .accepted (attached e params name y), action.Spares other

/-- An attribute that the success hook spares is after verification what it was when the parameters
had been attached. -/
theorem get?_verify_of_accepts (ha : h.Accepts hooks r x e params name y)
    (hs : SuccessSpares hooks e params name y other) :
    ((h.verify hooks r).exec x).2.attributes.get? other =
      (attached e params name y).attributes.get? other := by
  rw [verify_eq, Run.exec_bind_of_ok (rule_exec_of_rules (.accepted ha)), acceptedRuling]
  split
  · show ((hooks.notify e.success .accepted).exec _).2.attributes.get? other = _
    rw [notify_exec]
    cases hk : e.success with
    | hook k =>
        rw [Exchange.told, performAll_spares (hs k hk)]
    | _ => rfl
  · rfl

end Gate

/-! ## Reading the attributes -/

/-- Names that the record of attributes does not have of its own: reading such a name gives the
attribute. -/
structure Attributes.Ordinary (name : String) : Prop where
  notOwn : ∀ a : Attributes, a.own? name = none
  notOperation : operationType? name = none
  notClass : name ≠ "__class__"

theorem Attributes.Ordinary.read?_eq {name : String} (h : Attributes.Ordinary name)
    (a : Attributes) : a.read? name = a.get? (codes name) := by
  rw [Attributes.read?, h.notOwn]
  rfl

theorem Attributes.own?_eq_none {name : String} (hr : name ≠ recordName)
    (hn : name ∉ ["__dict__", "__module__", "__doc__", "__annotations__", "__weakref__"])
    (a : Attributes) : a.own? name = none := by
  simp only [List.mem_cons, List.not_mem_nil, or_false, not_or] at hn
  simp [own?, hr, hn]

theorem Value.orElse_map (entries : Table Value) :
    (Value.map entries).orElse (.map []) = .map entries := by
  cases entries with
  | nil => rfl
  | cons entry entries => rfl

namespace App

variable {s : Settings} {a b : Attributes}

theorem arguments_none (hs : Attributes.Ordinary s.slot) :
    arguments s none a = ((a.get? (codes s.slot)).getD .null).orElse (.map []) := by
  rw [arguments, hs.read?_eq]

/-- A map under the slot of the settings is what a handler gets. -/
theorem arguments_of_get? (hs : Attributes.Ordinary s.slot) {entries : Table Value}
    (h : a.get? (codes s.slot) = some (.map entries)) : arguments s none a = .map entries := by
  rw [arguments_none hs, h, Option.getD_some, Value.orElse_map]

/-- Only the attribute of the slot counts for what a handler gets. -/
theorem arguments_congr (hs : Attributes.Ordinary s.slot)
    (h : a.get? (codes s.slot) = b.get? (codes s.slot)) :
    arguments s none a = arguments s none b := by
  rw [arguments_none hs, arguments_none hs, h]

/-- After a request was accepted for an endpoint that gives no slot, on a gate made from the
settings, a handler gets the map that was attached if the settings name a slot. If they do not, the
map stands under the standard slot, and a handler gets what it would have got before. -/
theorem arguments_of_accepted {error success validate path method version : Value}
    {entries : Table Value} {g g' h : Gate} {hooks : Hooks} {r : Inbound} {x y : Exchange}
    {e : Endpoint} {params : Table Value} {name : Codes}
    (hdefaults : g.defaults = .ofSettings s error success validate)
    (hreg : g.Registers path method (.map entries) version e g')
    (hown : (field entries "param_map").truthy = false) (hs : Attributes.Ordinary s.slot)
    (ha : h.Accepts hooks r x e params name y)
    (hspares : ∀ other, other = name ∨ other = codes s.slot →
      Gate.SuccessSpares hooks e params name y other) :
    ((h.verify hooks r).exec x).2.attributes.get? name =
        some (.map (fillDefaults e.parameters params)) ∧
      (s.slot ≠ "" → name = codes s.slot ∧
        arguments s none ((h.verify hooks r).exec x).2.attributes =
          .map (fillDefaults e.parameters params)) ∧
      (s.slot = "" → name = codes standardSlot ∧
        arguments s none ((h.verify hooks r).exec x).2.attributes =
          arguments s none x.attributes) := by
  obtain ⟨entries', specs, hentries, hb⟩ := Endpoint.built_of_ofDeclaration hreg.built
  obtain rfl := Value.map.inj hentries
  -- the slot of the endpoint is that of the settings, unless it is empty
  have hslot : e.slot = (Value.string s.slot).orElse (.string standardSlot) := by
    rw [hb.slot_eq, hdefaults, Value.orElse_of_falsy hown]
    rfl
  have hattached : ((h.verify hooks r).exec x).2.attributes.get? name =
      some (.map (fillDefaults e.parameters params)) := by
    rw [Gate.get?_verify_of_accepts ha (hspares name (Or.inl rfl))]
    exact Attributes.get?_set_self _ _ _
  have hnamed := ha.named
  refine ⟨hattached, ?_, ?_⟩
  · intro hne
    have hname : name = codes s.slot := by
      have htrue : (Value.string s.slot).truthy = true := by simpa [Value.truthy] using hne
      rw [hslot, Value.orElse_of_truthy htrue] at hnamed
      exact (Option.some.inj hnamed).symm
    refine ⟨hname, ?_⟩
    rw [hname] at hattached
    exact arguments_of_get? hs hattached
  · intro hempty
    have hname : name = codes standardSlot := by
      rw [hslot, hempty] at hnamed
      exact (Option.some.inj hnamed).symm
    refine ⟨hname, ?_⟩
    -- nothing was attached under the empty name
    apply arguments_congr hs
    rw [Gate.get?_verify_of_accepts ha (hspares (codes s.slot) (Or.inr rfl))]
    have hother : name ≠ codes s.slot := by
      rw [hname, hempty]
      decide
    exact (Gate.attributes_of_accepts (.accepted ha) ha).2 (codes s.slot) hother

/-! ### Settings with a slot and without one -/

/-- Under the standard settings the handler gets the number that was given. -/
theorem arguments_of_accepted_two :
    arguments .standard none
        (((Gate.boundedGate 3 false).verify (.ofList []) (Gate.boundedRequest (.int 2))).exec
          .fresh).2.attributes =
      .map (fillDefaults (Gate.boundedEndpoint 3 false).parameters
        [(.string "n", .float (.ofInt 2))]) := by
  have hs : Attributes.Ordinary Settings.standard.slot :=
    ⟨Attributes.own?_eq_none (by decide) (by decide), by decide, by decide⟩
  have hspares : ∀ other, other = codes "args" ∨ other = codes Settings.standard.slot →
      Gate.SuccessSpares (.ofList []) (Gate.boundedEndpoint 3 false)
        [(.string "n", .float (.ofInt 2))] (codes "args") .fresh other :=
    fun other _ k hk => by simp [Gate.boundedEndpoint] at hk
  have hdefaults : (Gate.ofDefaults (Gate.boundedDefaults false)).defaults =
      .ofSettings .standard .null .null .null := rfl
  have hall := arguments_of_accepted hdefaults (Gate.bounded_registers 3 false) rfl hs
    Gate.bounded_accepts_two hspares
  exact (hall.2.1 (by decide)).2

/-- The standard settings without a slot. -/
def blankSettings : Settings := { Settings.standard with slot := "" }

/-- Their defaults without hooks. -/
def blankDefaults : Defaults := .ofSettings blankSettings .null .null .null

/-- The gate made from them with the endpoint of one bounded number. -/
def blankGate : Gate := ⟨blankDefaults, (Gate.boundedGate 3 false).registry⟩

theorem blank_built :
    Endpoint.ofDeclaration (.string "/items") (.string "GET") (.map (Gate.boundedFields 3))
      blankDefaults .null = .ok (Gate.boundedEndpoint 3 false) := by
  obtain ⟨entries, specs, hentries, hb⟩ :=
    Endpoint.built_of_ofDeclaration (Gate.bounded_built 3 false)
  obtain rfl := Value.map.inj hentries
  obtain ⟨names, hnames⟩ := hb.names
  -- only the slot of the defaults differs, and without one the endpoint takes the standard slot
  rw [Endpoint.ofDeclaration_of_known hb.known]
  exact Endpoint.ofFields_of_parts hb.specs_eq hb.parameters_eq hb.method_eq hb.order_eq hnames

theorem blank_registers :
    (Gate.ofDefaults blankDefaults).Registers (.string "/items") (.string "GET")
      (.map (Gate.boundedFields 3)) .null (Gate.boundedEndpoint 3 false) blankGate := by
  refine ⟨?_, blank_built⟩
  rw [Gate.configure_of_verified (Gate.isVerified_get rfl)]
  show Endpoint.ofDeclaration _ _ _ blankDefaults _ >>= _ = _
  rw [blank_built, ok_bind, EndpointKey.parse, Gate.ofValues_items]
  rfl

theorem blank_accepts_two :
    blankGate.Accepts (.ofList []) (Gate.boundedRequest (.int 2)) .fresh
      (Gate.boundedEndpoint 3 false) [(.string "n", .float (.ofInt 2))] (codes "args") .fresh := by
  obtain ⟨⟨hfound, hextracted, hchecked⟩, hnamed⟩ := Gate.bounded_accepts_two
  exact ⟨⟨hfound, hextracted, hchecked⟩, hnamed⟩

/-- Without a slot in the settings the number is attached, and the handler gets nothing. -/
theorem blank_slot_loses_arguments :
    (Gate.ofDefaults blankDefaults).Registers (.string "/items") (.string "GET")
        (.map (Gate.boundedFields 3)) .null (Gate.boundedEndpoint 3 false) blankGate ∧
      ((blankGate.verify (.ofList []) (Gate.boundedRequest (.int 2))).exec .fresh).2.attributes =
        [(codes "args", .map [(.string "n", .float (.ofInt 2))])] ∧
      arguments blankSettings none
        ((blankGate.verify (.ofList []) (Gate.boundedRequest (.int 2))).exec
          .fresh).2.attributes = .map [] := by
  have hattributes :
      ((blankGate.verify (.ofList []) (Gate.boundedRequest (.int 2))).exec .fresh).2.attributes =
        [(codes "args", .map [(.string "n", .float (.ofInt 2))])] := by
    rw [Gate.verify_exec_of_rules rfl (.accepted blank_accepts_two)]
    rfl
  refine ⟨blank_registers, hattributes, ?_⟩
  rw [hattributes]
  rfl

end App

end ParamGate
