import ParamGate.Proofs.Gate.Extraction
import ParamGate.Proofs.Gate.Registration
import ParamGate.Proofs.Gate.Ruling
import ParamGate.Route.Router

/-!
# Gates filled by routes

`Gate.FilledByRoutes` describes the gates that registrations of routes without hooks can reach,
from a gate without endpoints and under defaults without hooks outside development. A registration
that fails counts as well: what it configured before it failed stays. The invariant is
`Gate.Hookless`, kept by one configuration (`Gate.Hookless.configure`) and so by any number of
registrations (`Gate.FilledByRoutes.hookless`).

Behind such a gate a request is continued, or it gets the one empty rejection; in particular no
mistake in a declaration is left for extraction to meet.
-/

namespace ParamGate.Gate

/-- Gates outside development, without hooks, whose endpoints have parsed parameters. -/
structure Hookless (order : List String) (slot : String) (g : Gate) : Prop where
  defaults_eq : g.defaults = .hookless order slot false
  entries : ∀ entry ∈ g.registry.entries,
    entry.2.Hookless ∧ entry.2.development = .bool false

section Invariant

variable {order : List String} {slot : String} {g : Gate} {api version : Value}

theorem hookless_ofDefaults : (ofDefaults (.hookless order slot false)).Hookless order slot :=
  ⟨rfl, fun _ he => by simp [ofDefaults, Registry.empty] at he⟩

/-- One configuration without hooks keeps the invariant. -/
theorem Hookless.configure (hg : g.Hookless order slot) (hapi : Endpoint.HooklessDeclaration api)
    {path method : Value} {g' : Gate} {t : Treatment}
    (h : g.configure path method api version = .ok (g', t)) : g'.Hookless order slot := by
  rcases configure_eq_ok h with ⟨-, rfl⟩ | ⟨-, e, registry, he, hr, rfl⟩
  · exact hg
  · refine ⟨hg.defaults_eq, ?_⟩
    intro entry hm
    rcases Registry.mem_register hr hm with hm | hm
    · exact hg.entries entry hm
    · rw [hg.defaults_eq] at he
      obtain ⟨_, _, _, hb⟩ := Endpoint.built_of_ofDeclaration he
      rw [hm]
      exact ⟨Endpoint.hookless_of_ofDeclaration hapi he, hb.development_eq⟩

theorem Hookless.configureAll (hg : g.Hookless order slot)
    (hapi : Endpoint.HooklessDeclaration api) (path : String) (version : Value)
    (methods : List String) :
    (Router.configureAll path api version g methods).1.Hookless order slot := by
  induction methods generalizing g with
  | nil => exact hg
  | cons m methods ih =>
      rw [Router.configureAll]
      -- a configuration that fails ends the loop and leaves what was configured before it
      split
      · exact hg
      · rename_i next t hnext
        exact ih (hg.configure hapi hnext)

/-- A registration keeps the invariant, whether or not it succeeds. -/
theorem Hookless.add {r : Router} {d : RouteDeclaration} (hg : r.gate.Hookless order slot)
    (hapi : Endpoint.HooklessDeclaration d.api) : (r.add d).1.gate.Hookless order slot := by
  unfold Router.add
  simp only
  split
  · exact hg
  · exact hg
  · rename_i extra verified _ _
    have hall := hg.configureAll hapi (r.front ++ d.path) d.version verified
    split
    -- neither a late failure nor the route itself changes what was configured
    · rename_i g fault hc
      rwa [hc] at hall
    · rename_i g hc
      rw [hc] at hall
      split
      · exact hall
      · exact hall

end Invariant

/-- Gates that registrations of routes reach. -/
inductive FilledByRoutes (order : List String) (slot : String) : Gate → Prop
  | start : FilledByRoutes order slot (ofDefaults (.hookless order slot false))
  | add {r : Router} {d : RouteDeclaration} : FilledByRoutes order slot r.gate →
      Endpoint.HooklessDeclaration d.api → FilledByRoutes order slot (r.add d).1.gate

/-- Every gate that registrations reach keeps the invariant. -/
theorem FilledByRoutes.hookless {order : List String} {slot : String} {g : Gate}
    (h : FilledByRoutes order slot g) : g.Hookless order slot := by
  induction h with
  | start => exact hookless_ofDefaults
  | add _ hapi ih => exact ih.add hapi

/-! ## Requests behind such a gate -/

section Verify

variable {order : List String} {slot : String} {g : Gate} {hooks : Hooks} {r : Inbound}
  {x : Exchange}

theorem Hookless.of_finds (hg : g.Hookless order slot) {e : Endpoint} (h : g.Finds r e) :
    e.Hookless ∧ e.development = .bool false := by
  obtain ⟨k, hk⟩ := Registry.mem_of_lookup h
  exact hg.entries (k, e) hk

/-- Extraction meets no mistake in a declaration. -/
theorem Hookless.extract_ne_declaration (hg : g.Hookless order slot) {e : Endpoint}
    (h : g.Finds r e) (cause : DeclarationError) : extract e r ≠ .error (.declaration cause) :=
  ParamGate.extract_ne_declaration
    (fun name d hd => ((hg.of_finds h).1.parameters name d hd).1.kind) cause

/-- A request is ruled to go on, or to be refused with nothing said. -/
theorem Hookless.rules (hg : g.Hookless order slot) {ruling : Ruling} {y : Exchange}
    (h : g.Rules hooks r x ruling y) : ruling = .proceed ∨ ruling = .refuse .null := by
  cases h with
  | unknown _ => exact Or.inl rfl
  | unreadable hf hx => exact absurd hx (hg.extract_ne_declaration hf _)
  | rejected hx _ _ =>
      -- no error hook is there to be told, and outside development nothing is shown
      obtain ⟨he, hd⟩ := hg.of_finds hx.found
      rw [rejectedRuling, he.error_null, rejectionBody, hd]
      exact Or.inr rfl
  | accepted ha =>
      obtain ⟨he, -⟩ := hg.of_finds ha.examined.found
      rw [acceptedRuling, he.success_null]
      exact Or.inl rfl

/-- A request behind such a gate is continued without a reply, or it gets the empty rejection. -/
theorem Hookless.verify_eq_ok (hg : g.Hookless order slot) (hx : x.reply = none) {y : Exchange}
    (h : (g.verify hooks r).exec x = (.ok (), y)) :
    (y.reply = none ∧ y.continued = x.continued + 1) ∨
      (y.reply = some (.empty rejectedStatus) ∧ y.continued = x.continued) := by
  rcases rules_or_stops g hooks r x with ⟨ruling, z, hr⟩ | ⟨fault, z, hs⟩
  -- before the ruling nothing was sent or continued, so its action is all that shows
  · have hsilent := silent_of_rules hr
    rw [verify_exec_of_rules hx hr] at h
    rcases hg.rules hr with rfl | rfl
    · obtain ⟨-, rfl⟩ := Prod.mk.inj h
      exact Or.inl ⟨hsilent.reply.trans hx, congrArg (· + 1) hsilent.continued⟩
    · obtain ⟨-, rfl⟩ := Prod.mk.inj h
      exact Or.inr ⟨rfl, hsilent.continued⟩
  · rw [verify_exec_of_stops hs] at h
    simp at h

end Verify

end ParamGate.Gate
