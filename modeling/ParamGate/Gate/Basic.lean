import ParamGate.Gate.Extraction
import ParamGate.Parameter.Check

/-!
# The gate

A gate holds the defaults and the registry of endpoints. `configure` registers a declaration and
says whether requests of the route are to be verified. `verify` decides a request in one of four
ways: it continues the chain, sends a rejection, or hands the request to the error hook or the
success hook, which then own the reply and the chain.
-/

namespace ParamGate

open Text

/-- Status of a rejection. -/
def rejectedStatus : Int := 422

/-- Message of a rejection with details. -/
def rejectedMessage : Codes := codes "Required parameters are missing"

/-- What to do with the requests of a route. -/
inductive Treatment where
  | verify
  | passThrough
deriving DecidableEq

/-- A gate. -/
structure Gate where
  defaults : Defaults
  registry : Registry Endpoint

namespace Gate

/-- The gate with the given defaults and no endpoints. -/
def ofDefaults (defaults : Defaults) : Gate := ⟨defaults, .empty⟩

/-- Registers the endpoint of a declaration. A route without a declaration, with a handler in its
place, or of the parameter method is not registered. -/
def configure (g : Gate) (path method api version : Value) :
    Except Fault (Gate × Treatment) := do
  if ← Endpoint.isVerified api method then
    let e ← Endpoint.ofDeclaration path method api g.defaults version
    let registry ← g.registry.register path method version e
    .ok ({ g with registry := registry }, .verify)
  else
    let _ ← Endpoint.upperMethod method
    .ok (g, .passThrough)

/-- Body of a reply that reports an error. -/
def errorBody (message : Codes) (params : Value) : Value :=
  .map [(.string "error", .ofCodes message), (.string "params", params)]

/-- Body of a rejection: details only in development. -/
def rejectionBody (e : Endpoint) (problems : Problems) : Value :=
  if e.development.truthy then errorBody rejectedMessage problems.toValue else .null

/-- Attaches the parameters to the request. -/
def attach (slot : Value) (params : Table Value) : Run Exchange Unit :=
  match slot.codes? with
  | some name => modify fun x => { x with attributes := x.attributes.set name (.map params) }
  | none => throw (.attributeName slot.typeName)

/-- Answers a request whose parameters cannot be extracted. -/
def refuseUnreadable (hooks : Hooks) (e : Endpoint) (message : Codes) : Run Exchange Unit :=
  if e.error.truthy then hooks.notify e.error (.unreadable message)
  else respond rejectedStatus (errorBody message (.map [])) continueChain

/-- Answers a request whose parameters have problems. Problems are reported by name, so every name
among them has to be a text. -/
def reject (hooks : Hooks) (e : Endpoint) (problems : Problems) : Run Exchange Unit := do
  let _ ← Run.lift (Value.texts 0 (Table.keys problems))
  if e.error.truthy then hooks.notify e.error (.rejected problems)
  else respond rejectedStatus (rejectionBody e problems) continueChain

/-- Answers a request whose parameters are accepted. -/
def accept (hooks : Hooks) (e : Endpoint) (params : Table Value) : Run Exchange Unit := do
  attach e.slot (fillDefaults e.parameters params)
  if e.success.truthy then hooks.notify e.success .accepted else continueChain

/-- Decides a request of an endpoint. -/
def verifyAt (hooks : Hooks) (e : Endpoint) (r : Inbound) : Run Exchange Unit :=
  match extract e r with
  | .error (.declaration cause) => refuseUnreadable hooks e cause.message
  | .error fault => throw fault
  | .ok params => do
      let problems ← (check hooks params e.parameters).onEvents
      match problems with
      | [] => accept hooks e params
      | _ => reject hooks e problems

/-- Decides a request. A request that has no endpoint is let through. -/
def verify (g : Gate) (hooks : Hooks) (r : Inbound) : Run Exchange Unit := do
  let found ← Run.lift (g.registry.lookup r.path r.method r.version)
  match found with
  | none => continueChain
  | some e => verifyAt hooks e r

/-- What a treatment does with a request. -/
def treat (g : Gate) (hooks : Hooks) (r : Inbound) : Treatment → Run Exchange Unit
  | .verify => g.verify hooks r
  | .passThrough => continueChain

end Gate

end ParamGate
