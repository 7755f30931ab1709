import ParamGate.Exchange.Reply
import ParamGate.Settings

/-!
# Replies to requests that fail

Requests whose own arguments are invalid, and failures that nothing else handles. Details are given
in development only: the reply to an invalid request is then a report by place, and otherwise empty.
-/

namespace ParamGate

open Text

/-- Parts of a request that a place may start with. -/
def requestParts : List String := ["body", "query", "path", "header", "cookie"]

/-- The texts of values. -/
def textsOf : List Value → Except Fault (List Codes)
  | [] => .ok []
  | v :: vs => do
      let text ← v.textCodes
      let rest ← textsOf vs
      .ok (text :: rest)

/-- A place without the part of the request that it starts with. -/
def withoutRequestPart : List Codes → List Codes
  | [] => []
  | text :: rest => if (requestParts.map codes).contains text then rest else text :: rest

/-- The name under which a finding is reported. -/
def reportName (place : List Codes) : Codes :=
  let name := (codes ".").intercalate (withoutRequestPart place)
  if name = [] then codes "request" else name

/-- The report with one finding more; a finding of the same name is replaced. -/
def addFinding (report : Table Value) (finding : Value) : Except Fault (Table Value) :=
  match finding with
  | .map entries => do
      let parts ← ((Table.get? entries (.string "loc")).getD (.tuple [])).parts
      let place ← textsOf parts
      let message := (Table.get? entries (.string "msg")).getD (.string "Invalid value")
      .ok (report.put (.ofCodes (reportName place)) (.map [(.string "error", message)]))
  | v => .error (.noAttribute v.typeName "get")

/-- The report of findings. -/
def reportOf (report : Table Value) : List Value → Except Fault (Table Value)
  | [] => .ok report
  | f :: rest => do
      let next ← addFinding report f
      reportOf next rest

/-- A body with an error and details. -/
def failureBody (error : Codes) (params : Table Value) : Value :=
  .map [(.string "error", .ofCodes error), (.string "params", .map params)]

/-- Reply to a request with invalid arguments. -/
def invalidReply (s : Settings) (findings : List Value) : Except Fault Reply :=
  if s.isDevelopment then do
    let report ← reportOf [] findings
    Reply.ofValue 422 (failureBody (codes "Request validation failed") report)
  else .ok (.empty 422)

/-- Reply to a failure that nothing else handles; `text` describes it. -/
def failureReply (s : Settings) (text : Except Fault Codes) : Except Fault Reply :=
  if s.isDevelopment then do
    let shown ← text
    Reply.ofValue 500 (failureBody (codes "Internal server error: " ++ shown) [])
  else Reply.ofValue 500 (failureBody (codes "Internal server error") [])

/-- Text of a failure with arguments. A look-up failure shows its argument in quotes. -/
def failureText (isLookup : Bool) (args : List Value) : Except Fault Codes :=
  match args with
  | [] => .ok []
  | [v] => if isLookup then v.literal.map codes else v.textCodes
  | _ => (Value.tuple args).literal.map codes

end ParamGate
