import ParamGate.Endpoint.Registry

/-!
# Inbound requests

What a gate sees of a request: the path, the method, the negotiated version and the values of each
source.
-/

namespace ParamGate

open Text

/-- A request. `version` is null if none was negotiated. -/
structure Inbound where
  path : Value
  method : Value
  version : Value
  sources : Table Value

namespace Inbound

/-- The sources given by a value; a value that is not true gives none. -/
def parseSources (sources : Value) : Except Fault (Table Value) :=
  if sources.truthy then sources.toTable else .ok []

/-- A request with its method and version in normal form. -/
def ofValues (path method version sources : Value) : Except Fault Inbound := do
  let k ← EndpointKey.ofValues path method version
  let table ← parseSources sources
  .ok ⟨path, k.method, k.version, table⟩

/-- The source of a name, null if there is none. -/
def source (r : Inbound) (name : Value) : Except Fault Value :=
  match name.unhashable? with
  | some type => .error (.unhashable type)
  | none => .ok ((r.sources.get? name).getD .null)

/-- Text that identifies the request in messages. -/
def describe (r : Inbound) : Except Fault Codes := do
  let method ← r.method.textCodes
  let path ← r.path.textCodes
  let version ← r.version.literal
  .ok (codes "InboundRequest(" ++ method ++ codes " " ++ path ++
    codes (", version=" ++ version ++ ")"))

end Inbound

end ParamGate
