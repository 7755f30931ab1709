import ParamGate.Exchange.Reply
import ParamGate.Value.Order

/-!
# Hooks

The functions that an application supplies. A validate hook judges a value; an error or success
hook is told about a request and answers with a script of actions. `Hooks` gives the behaviour of
every hook and may depend on what happened before. `Hooks.ofList` makes it from rules and
scripts.
-/

namespace ParamGate

open Text

/-- Actions of an error or success hook. -/
inductive Action where
  /-- Continue the chain. -/
  | next
  | send (body : Value) (status : Int)
  /-- Append to the list under a key of an attribute. -/
  | append (name : String) (key value : Value)
  /-- Attach an attribute. -/
  | attach (name : String) (value : Value)
  | fail (fault : Fault)

/-- Behaviour of all hooks. -/
structure Hooks where
  /-- Verdict of a validate hook after the events so far on a value, a name and a definition. -/
  verdict : Hook → List Event → Value → Value → Definition → Except Fault Value
  /-- Actions of an error or success hook that is told something about a request. -/
  script : Hook → Notice → Exchange → List Action

/-- First number that is too large for an index. -/
def indexBound : Nat := Nat.pow 2 63

/-- The fault of appending to the character at an index of a text of some length. -/
def appendToCharacter (length : Nat) (index : Value) : Fault :=
  let number? : Option Int := match index with
    | .int n => some n
    | .bool b => some b.toNat
    | _ => none
  match number? with
  | none => .notIndex index.typeName
  | some n =>
      if (indexBound : Int) ≤ n ∨ n < -(indexBound : Int) then .indexSize
      else if -(length : Int) ≤ n ∧ n < length then .noAttribute "str" "append"
      else .indexRange

/-- Puts a value at the end of the list under a key of a container. -/
def appendUnder (container key value : Value) : Except Fault Value :=
  match container with
  | .map entries =>
      match key.unhashable? with
      | some type => .error (.unhashable type)
      | none =>
          match Table.get? entries key with
          | none => do
              let shown ← key.literal
              .error (.missingKey shown)
          | some (.list items) => .ok (.map (Table.put entries key (.list (items ++ [value]))))
          | some v => .error (.noAttribute v.typeName "append")
  | v =>
      match v.codes? with
      | some codes => .error (appendToCharacter codes.length key)
      | none => .error (.notSubscriptable v.typeName)

/-- The container that an attribute is. -/
def containerOf (a : Attributes) (name : String) : Except Fault Value :=
  match Attributes.operationType? name with
  | some type => .error (.notSubscriptable type)
  | none =>
      if name = "__class__" then .error (.classNotSubscriptable recordType)
      else
        match a.read? name with
        | some v => .ok v
        | none => .error (.noAttribute recordType name)
where
  /-- Name of the type of records of attributes. -/
  recordType : String := "State"

/-- Carries out one action. -/
def Action.perform : Action → Run Exchange Unit
  | .next => continueChain
  | .send body status => ParamGate.send status body
  | .append name key value => do
      let e ← get
      let container ← Run.lift (containerOf e.attributes name)
      let changed ← Run.lift (appendUnder container key value)
      set { e with attributes := e.attributes.set (codes name) changed }
  | .attach name value =>
      modify fun e => { e with attributes := e.attributes.set (codes name) value }
  | .fail fault => throw fault

/-- Carries out actions in order. -/
def performAll : List Action → Run Exchange Unit
  | [] => pure ()
  | a :: rest => do
      a.perform
      performAll rest

namespace Hooks

/-- Asks a validate hook. -/
def judge (hooks : Hooks) (h : Value) (value name : Value) (d : Definition) :
    Run (List Event) Value :=
  match h with
  | .hook h => do
      let before ← get
      let type : Value := match d.type with
        | .kind k => .string k.name
        | v => v
      set (before ++ [Event.judged h.name value name type])
      Run.lift (hooks.verdict h before value name d)
  | v => throw (.notCallable v.typeName)

/-- Tells an error or success hook about a request and carries out its actions. -/
def notify (hooks : Hooks) (h : Value) (notice : Notice) : Run Exchange Unit :=
  match h with
  | .hook h => do
      let e ← get
      set { e with events := e.events ++ [Event.notified h.name notice e.attributes] }
      performAll (hooks.script h notice e)
  | v => throw (.notCallable v.typeName)

end Hooks

/-! ## Hooks given by rules and scripts -/

/-- When a rule of a validate hook applies. -/
inductive Condition where
  | always
  | equals (v : Value)
  | absent
  | named (name : String)

/-- Whether a condition holds of a value and a name. -/
def Condition.holds (value name : Value) : Condition → Bool
  | .always => true
  | .equals v => value.equal v
  | .absent => value.isNull
  | .named n => name.equal (.string n)

/-- A rule of a validate hook: the verdict when the condition holds. -/
structure Rule where
  condition : Condition
  verdict : Value

/-- Behaviour of one hook. -/
inductive Behaviour where
  /-- The verdict of the first rule that applies, null if none does. -/
  | judging (rules : List Rule)
  | acting (actions : List Action)

/-- Verdict of a list of rules. -/
def verdictOf (rules : List Rule) (value name : Value) : Value :=
  ((rules.find? fun r => r.condition.holds value name).map Rule.verdict).getD .null

/-- The hooks whose behaviours are listed by slot. -/
def Hooks.ofList (behaviours : List Behaviour) : Hooks where
  verdict h _ value name _ :=
    match behaviours[h.slot]? with
    | some (.judging rules) => .ok (verdictOf rules value name)
    | _ => .ok .null
  script h _ _ :=
    match behaviours[h.slot]? with
    | some (.acting actions) => actions
    | _ => []

end ParamGate
