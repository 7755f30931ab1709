import ParamGate.Exchange.Hook

/-!
# Checking parameters

The values of the parameters are checked against their definitions in order of declaration. A
validate hook replaces all other checks of its parameter. Otherwise a required value must be
present, and every true entry must lie within the bounds, where texts are measured by their
length; the last finding about a parameter is the one reported, and of one entry the lower bound
is looked at last.
-/

namespace ParamGate

/-- The type in a definition, which must be one of the types. -/
def declaredKind (type : Value) : Except Fault Kind :=
  match type with
  | .kind k => .ok k
  | v => .error (.noAttribute v.typeName "value")

/-- A problem with a parameter. -/
def report (d : Definition) (finding : Finding) : Except Fault Problem :=
  (declaredKind d.type).map (⟨·, finding⟩)

/-- The quantity of an entry that the bounds limit, for types that have one. -/
def measure (type entry : Value) : Except Fault (Option Value) :=
  match type with
  | .kind .string =>
      match entry.codes? with
      | some codes => .ok (some (.int codes.length))
      | none => entry.text.map fun s => some (.int s.length)
  | .kind .number => .ok (some entry)
  | _ => .ok none

/-- Whether a value counts as missing. -/
def isMissing : Value → Bool
  | .null => true
  | .list [] => true
  | _ => false

/-- Whether a quantity lies beyond a bound in a direction; no bound is never passed. -/
def passes (c : Value.Comparison) (quantity bound : Value) : Except Fault Bool :=
  if bound.isNull then .ok false else quantity.compare c bound

/-- The finding about one entry, or the finding before it. -/
def checkEntry (d : Definition) (before : Option Problem) (entry : Value) :
    Except Fault (Option Problem) :=
  if entry.truthy then do
    match ← measure d.type entry with
    | none => .ok before
    | some quantity =>
        let above ← passes .greater quantity d.max
        let found ← if above then (report d (.aboveMax d.max)).map some else .ok before
        let below ← passes .less quantity d.min
        if below then (report d (.belowMin d.min)).map some else .ok found
  else .ok before

/-- The last finding about several entries, or the finding before them. -/
def checkEntries (d : Definition) (before : Option Problem) :
    List Value → Except Fault (Option Problem)
  | [] => .ok before
  | entry :: rest => do
      let found ← checkEntry d before entry
      checkEntries d found rest

/-- The entries of a value that are checked one by one. -/
def checkedEntries : Value → List Value
  | .list items => items
  | v => [v]

/-- The finding about the value of a parameter without a validate hook. -/
def inspect (d : Definition) (value : Value) : Except Fault (Option Problem) := do
  let missing ←
    if d.required.truthy && isMissing value then (report d .notSet).map some else .ok none
  checkEntries d missing (checkedEntries value)

/-- The finding about the value of a parameter. -/
def checkValue (hooks : Hooks) (name : Value) (d : Definition) (value : Value) :
    Run (List Event) (Option Problem) :=
  if d.validate.isNull then Run.lift (inspect d value)
  else do
    let verdict ← hooks.judge d.validate value name d
    if verdict.truthy then Run.lift ((report d (.custom verdict)).map some) else pure none

/-- The value of a parameter, null if it is missing. -/
def valueOf (params : Table Value) (name : Value) : Value := (params.get? name).getD .null

/-- The problems of all parameters. -/
def check (hooks : Hooks) (params : Table Value) :
    Table Definition → Run (List Event) Problems
  | [] => pure []
  | (name, d) :: rest => do
      let found ← checkValue hooks name d (valueOf params name)
      let others ← check hooks params rest
      match found with
      | none => pure others
      | some problem => pure ((name, problem) :: others)

end ParamGate
