/-!
# Reading bytes step by step

A decoder of bytes is given by its steps. A step looks at a byte and at those after it, and says
which codes they give, how many of the further bytes it has read, and in which state it goes on.
-/

namespace ParamGate.Text.Charset

/-- What a step does. -/
structure StepResult (σ : Type) where
  codes : List Nat
  /-- Number of bytes read after the first one. -/
  more : Nat
  state : σ

/-- A step from a state at a byte before others. -/
abbrev Step (σ : Type) := σ → Nat → List Nat → Option (StepResult σ)

/-- The codes of bytes, of which `skip` are read already; `seen` is in reverse order. -/
def readSteps {σ : Type} (step : Step σ) (state : σ) (skip : Nat) (seen : List Nat) :
    List Nat → Option (List Nat)
  | [] => if skip = 0 then some seen.reverse else none
  | b :: rest =>
      match skip with
      | skip + 1 => readSteps step state skip seen rest
      | 0 =>
          match step state b rest with
          | none => none
          | some r => readSteps step r.state r.more (r.codes.reverse ++ seen) rest

/-- The codes of bytes by steps without a state. -/
def readAll (step : Nat → List Nat → Option (List Nat × Nat)) (bytes : List Nat) :
    Option (List Nat) :=
  readSteps (fun (_ : Unit) b rest => (step b rest).map fun r => ⟨r.1, r.2, ()⟩) () 0 [] bytes

/-- One code for one byte. -/
def oneByte (code : Nat) : List Nat × Nat := ([code], 0)

/-- One code for two bytes, if there is one. -/
def twoBytes (code : Option Nat) : Option (List Nat × Nat) := code.map fun n => ([n], 1)

end ParamGate.Text.Charset
