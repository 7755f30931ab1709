import ParamGate.Fault
import ParamGate.Parameter.Problem

/-!
# Exchanges

The state of one request while it is answered: the attributes attached to it, the one reply that
may be sent, how often the chain was continued, and what happened so far. A `Run` keeps the state
that was reached when a fault stops it.
-/

namespace ParamGate

open Text

/-- A reply. -/
structure Reply where
  status : Int
  contentType : Option String
  body : String
deriving DecidableEq, Inhabited

/-- What a hook is told about a request. -/
inductive Notice where
  /-- The parameters are accepted. -/
  | accepted
  /-- The parameters are rejected. -/
  | rejected (problems : Problems)
  /-- The parameters cannot be extracted. -/
  | unreadable (message : Codes)

/-- Attributes of a request by name. -/
abbrev Attributes := List (Codes × Value)

namespace Attributes

/-- The attribute of a name. -/
def get? (a : Attributes) (name : Codes) : Option Value := a.lookup name

/-- Name under which the attributes as a whole are read. -/
def recordName : String := "_state"

/-- All attributes as one map. -/
def toValue (a : Attributes) : Value := .map (a.map fun e => (.ofCodes e.1, e.2))

/-- What the record of attributes has under a name of its own. -/
def own? (a : Attributes) (name : String) : Option Value :=
  if name = recordName then some a.toValue
  else
    match name with
    | "__dict__" => some (.map [(.string recordName, a.toValue)])
    | "__module__" => some (.string "starlette.datastructures")
    | "__doc__" =>
        some (.string ("\n    An object that can be used to store arbitrary state.\n\n" ++
          "    Used for `request.state` and `app.state`.\n    "))
    | "__annotations__" =>
        some (.map [(.string recordName, .string "dict[str, typing.Any]")])
    | "__weakref__" => some .null
    | _ => none

/-- The attribute that reading a name gives: what the record has under names of its own hides the
attributes of those names. -/
def read? (a : Attributes) (name : String) : Option Value := a.own? name <|> a.get? (codes name)

/-- The type of what the record can do under a name of its own. -/
def operationType? (name : String) : Option String :=
  if ["__init__", "__setattr__", "__getattr__", "__delattr__"].contains name then
    some "method"
  else if ["__eq__", "__ne__", "__lt__", "__le__", "__gt__", "__ge__", "__hash__", "__repr__",
      "__str__", "__getattribute__"].contains name then
    some "method-wrapper"
  else if ["__dir__", "__format__", "__getstate__", "__init_subclass__", "__new__", "__reduce__",
      "__reduce_ex__", "__sizeof__", "__subclasshook__"].contains name then
    some "builtin_function_or_method"
  else none

/-- Attaches an attribute, in the place of the one with that name. -/
def set (a : Attributes) (name : Codes) (v : Value) : Attributes :=
  match a with
  | [] => [(name, v)]
  | (n, w) :: rest => if n = name then (n, v) :: rest else (n, w) :: set rest name v

theorem get?_set_self (a : Attributes) (name : Codes) (v : Value) :
    get? (set a name v) name = some v := by
  induction a with
  | nil => simp [set, get?]
  | cons e a ih =>
      obtain ⟨n, w⟩ := e
      by_cases h : n = name
      · simp [set, get?, h]
      · have h' : (name == n) = false := by simpa using fun e => h e.symm
        simpa [set, get?, h, List.lookup_cons, h'] using ih

theorem get?_set_of_ne (a : Attributes) {name other : Codes} (v : Value) (h : name ≠ other) :
    get? (set a name v) other = get? a other := by
  have h' : (other == name) = false := by simpa using fun e => h e.symm
  induction a with
  | nil => simp [set, get?, List.lookup_cons, h']
  | cons e a ih =>
      obtain ⟨n, w⟩ := e
      by_cases hn : n = name
      · subst hn
        simp [set, get?, List.lookup_cons, h']
      · simp only [set, hn, if_false, get?, List.lookup_cons]
        split
        · rfl
        · exact ih

end Attributes

/-- What can be observed while a request is answered. -/
inductive Event where
  /-- A validate hook was asked about a value. -/
  | judged (hook : String) (value name type : Value)
  /-- A hook was told about the request, which had these attributes. -/
  | notified (hook : String) (notice : Notice) (attributes : Attributes)
  /-- A dependency of a route ran. -/
  | dependency (name : String)

/-- State of one request while it is answered. -/
structure Exchange where
  attributes : Attributes
  reply : Option Reply
  continued : Nat
  events : List Event

/-- The exchange of a new request. -/
def Exchange.fresh : Exchange := ⟨[], none, 0, []⟩

/-- Computations on a state; a fault keeps the state reached so far. -/
abbrev Run (σ α : Type) := ExceptT Fault (StateM σ) α

namespace Run

variable {σ α β : Type}

/-- The outcome and the final state. -/
def exec (x : Run σ α) (s : σ) : Except Fault α × σ := (ExceptT.run x).run s

/-- A step that has no effect on the state. -/
def lift (x : Except Fault α) : Run σ α := ExceptT.mk (pure x)

@[simp] theorem exec_pure (a : α) (s : σ) : (pure a : Run σ α).exec s = (.ok a, s) := rfl

@[simp] theorem exec_throw (f : Fault) (s : σ) :
    (throw f : Run σ α).exec s = (.error f, s) := rfl

@[simp] theorem exec_lift (x : Except Fault α) (s : σ) : (lift x : Run σ α).exec s = (x, s) := rfl

/-- Two steps in a row: the second starts in the state that the first reached, unless a fault
stopped it there. -/
theorem exec_bind (x : Run σ α) (f : α → Run σ β) (s : σ) :
    (x >>= f).exec s =
      match x.exec s with
      | (.ok a, t) => (f a).exec t
      | (.error fault, t) => (.error fault, t) := by
  unfold exec ExceptT.run StateT.run
  simp only [bind, ExceptT.bind, ExceptT.mk, StateT.bind, ExceptT.bindCont]
  cases x s with
  | mk outcome t => cases outcome <;> rfl

end Run

/-- Runs a computation on the list of events inside an exchange. -/
def Run.onEvents {α : Type} (x : Run (List Event) α) : Run Exchange α :=
  ExceptT.mk fun e =>
    let (outcome, events) := x.exec e.events
    (outcome, { e with events := events })

end ParamGate
