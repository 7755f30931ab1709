import ParamGate.Exchange.Basic
import ParamGate.Json.Writer

/-!
# Sending the reply

A reply is empty or holds JSON. An exchange holds at most one: sending again is a fault and leaves
the first reply, and a body that has no JSON text leaves the exchange without a reply.
-/

namespace ParamGate

/-- Media type of JSON. -/
def jsonType : String := "application/json"

/-- A reply without a body. -/
def Reply.empty (status : Int) : Reply := ⟨status, none, ""⟩

/-- A reply with a JSON body. -/
def Reply.json (status : Int) (text : String) : Reply := ⟨status, some jsonType, text⟩

/-- The reply with the given body; null means no body. -/
def Reply.ofValue (status : Int) (body : Value) : Except Fault Reply :=
  match body with
  | .null => .ok (.empty status)
  | _ => (Json.write body).map (.json status)

/-- The slot for the reply after sending a body. -/
def sendTo (slot : Option Reply) (status : Int) (body : Value) : Except Fault (Option Reply) :=
  match slot with
  | some _ => .error .alreadySent
  | none => (Reply.ofValue status body).map some

/-- Sends a body on an exchange. -/
def send (status : Int) (body : Value) : Run Exchange Unit := do
  let e ← get
  let slot ← Run.lift (sendTo e.reply status body)
  set { e with reply := slot }

/-- Answers in place of the rest of the chain, which is not run. -/
def respond (status : Int) (body : Value) (_next : Run Exchange Unit) : Run Exchange Unit :=
  send status body

/-- Continues the chain. -/
def continueChain : Run Exchange Unit :=
  modify fun e => { e with continued := e.continued + 1 }

end ParamGate
