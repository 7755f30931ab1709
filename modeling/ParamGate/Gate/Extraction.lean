import ParamGate.Exchange.Inbound

/-!
# Extracting parameters

The sources are searched in the order of the endpoint. The first source that gives a usable value
for a declared name decides it; what stays null afterwards takes the declared default.
-/

namespace ParamGate

/-- The value of a name, null if the table has none. -/
def currentValue (params : Table Value) (name : Value) : Value := (params.get? name).getD .null

/-- Takes one entry of a source: it is coerced if its name is declared and has no value yet. -/
def takeEntry (declared : Table Definition) (params : Table Value) (name raw : Value) :
    Except Fault (Table Value) :=
  match declared.get? name with
  | none => .ok params
  | some d =>
      if (currentValue params name).isNull then
        (coerceAs d.type d.array raw).map fun v => params.put name v
      else .ok params

/-- Takes the entries of one source. -/
def takeEntries (declared : Table Definition) (params : Table Value) :
    List (Value × Value) → Except Fault (Table Value)
  | [] => .ok params
  | (name, raw) :: rest => do
      let next ← takeEntry declared params name raw
      takeEntries declared next rest

/-- Takes one source; a source that is not true is passed over. -/
def takeSource (declared : Table Definition) (params : Table Value) (source : Value) :
    Except Fault (Table Value) :=
  if source.truthy then
    match source with
    | .map entries => takeEntries declared params entries
    | v => .error (.noAttribute v.typeName "items")
  else .ok params

/-- Takes the named sources in order. -/
def takeSources (declared : Table Definition) (r : Inbound) (params : Table Value) :
    List Value → Except Fault (Table Value)
  | [] => .ok params
  | name :: rest => do
      let source ← r.source name
      let next ← takeSource declared params source
      takeSources declared r next rest

/-- The declared parameters that a request brings. -/
def extract (e : Endpoint) (r : Inbound) : Except Fault (Table Value) :=
  takeSources e.parameters r [] e.order

/-- Gives every parameter without a value its default. -/
def fillDefaults (declared : Table Definition) (params : Table Value) : Table Value :=
  declared.foldl
    (fun filled entry =>
      if (currentValue filled entry.1).isNull then filled.put entry.1 entry.2.default else filled)
    params

end ParamGate
