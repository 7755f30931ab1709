import ParamGate.App.Count
import ParamGate.App.Failure
import ParamGate.App.Listing
import ParamGate.Route.Router

/-!
# The application

An application answers requests with the routes of a router. The dependencies of a route are
resolved in order before its handler runs, and one of them may answer the request or fail.
Verification is one of them: what the gate or a hook sends is the reply, a request that is neither
answered nor continued is a failure, and only a request that is continued without a reply may pass.
The routes of the pages about the application come before all others.
-/

namespace ParamGate

open Text

/-- What the framework brings along: the contents of the pages, and where there is more about a
mistake in a field. -/
structure Framework where
  page : Page → Except Fault String
  help : FieldMistake → String

/-- An application. `handlesFailures` says that invalid arguments and failures are answered in the
shape of rejections. -/
structure App where
  gate : Gate
  settings : Settings
  hooks : Hooks
  handlesFailures : Bool
  framework : Framework
  routes : List Route

/-- What a handler got. -/
inductive Reached where
  | arguments (route : Nat) (values : Value)
  | count (route : Nat) (n : Int)

/-- How a request was answered. -/
structure Outcome where
  reply : Reply
  reached : Option Reached
  events : List Event
  /-- The failure that nothing handled. -/
  raised : Option Fault
  /-- Whether the handler of a route ran. -/
  handled : Bool := false
  /-- Where the client is sent instead: a path with the query of the request. -/
  target : Option String := none

/-- The outcome of a handler that ran. -/
def Outcome.byHandler (o : Outcome) : Outcome := { o with handled := true }

/-- How far the dependencies of a route let a request through. -/
inductive Passage where
  | passed
  /-- The request was answered before it reached the handler. -/
  | rejected (reply : Reply)
  | failed (fault : Fault)

namespace App

/-- Media type of plain text. -/
def textType : String := "text/plain; charset=utf-8"

/-- The reply of a handler that is done. -/
def handledReply : Reply := ⟨200, some textType, "handled"⟩

/-- A reply with a short detail. -/
def detailReply (status : Int) (detail : String) : Except Fault Reply :=
  Reply.ofValue status (.map [(.string "detail", .string detail)])

/-- The reply to a request that was neither answered nor continued. -/
def incompleteReply : Except Fault Reply :=
  Reply.ofValue 500 (failureBody (codes "Request was not completed") [])

/-- The reply to a failure if nothing is known about it. -/
def bareFailureReply : Reply := ⟨500, some textType, "Internal Server Error"⟩

/-- The outcome of a failure. -/
def failed (a : App) (events : List Event) (fault : Fault) : Outcome :=
  let reply :=
    if a.handlesFailures then
      match failureReply a.settings (.ok (fault.message a.framework.help)) with
      | .ok reply => reply
      | .error _ => bareFailureReply
    else bareFailureReply
  { reply := reply, reached := none, events := events, raised := some fault }

/-- The outcome of a reply that may have a fault. -/
def replied (a : App) (events : List Event) (reached : Option Reached)
    (reply : Except Fault Reply) : Outcome :=
  match reply with
  | .ok reply => { reply := reply, reached := reached, events := events, raised := none }
  | .error fault => a.failed events fault

/-- The value that a handler gets of the attributes: the attribute of the given name or of the
settings, and an empty map in place of a value that is not true. -/
def arguments (s : Settings) (slot : Option String) (attributes : Attributes) : Value :=
  let name := match slot with
    | none => s.slot
    | some "" => s.slot
    | some name => name
  ((attributes.read? name).getD .null).orElse (.map [])

/-! ## Integer arguments -/

/-- Name of the integer that a handler takes. -/
def countName : String := "n"

/-- Reply to an invalid integer, found in a part of the request. -/
def countReply (a : App) (part : String) (problem : Count.Problem) (input : Value) :
    Except Fault Reply :=
  let finding : List (Value × Value) :=
    [(.string "type", .string problem.type),
      (.string "loc", .list [.string part, .string countName]),
      (.string "msg", .string problem.message), (.string "input", input)]
  if a.handlesFailures then invalidReply a.settings [.map finding]
  else Reply.ofValue 422 (.map [(.string "detail", .list [.map finding])])

/-- The parameter of the path that a handler takes as its integer. -/
def countParameter? (r : Route) (params : Table Value) : Option (Route.Converter × Value) :=
  if r.template.supplies countName then
    match r.template.converter? countName, params.get? (.string countName) with
    | some k, some v => some (k, v)
    | _, _ => none
  else none

/-- The integer that a handler takes: from the path if its template supplies it, else from the query.
A problem is given with the part of the request and the input that have it. -/
def countArgument (r : Route) (params : Table Value) (q : Http.Request) :
    Except (String × Count.Problem × Value) Int :=
  match countParameter? r params with
  | some (k, v) => (Count.ofParameter k v).mapError fun problem => ("path", problem, v)
  | none =>
      match Count.queryValue? q countName with
      | none => .error ("query", .missing, .null)
      | some s => (Count.read s).mapError fun problem => ("query", problem, .string s)

/-! ## Serving a request -/

/-- The reply with a page. -/
def pageReply (a : App) (p : Page) : Except Fault Reply :=
  (a.framework.page p).map fun text => ⟨200, some p.mediaType, text⟩

/-- Where a client is sent to ask for a path with its query, which has to be UTF-8. -/
def targetOf (path : String) (q : Http.Request) : Except Fault String :=
  (listedBytes q.query).map fun query => if query = "" then path else path ++ "?" ++ query

/-- The outcome of a request that is sent to another path. -/
def redirected (a : App) (path : String) (q : Http.Request) : Outcome :=
  match targetOf path q with
  | .ok target => { a.replied [] none (.ok (.empty 307)) with target := some target }
  | .error fault => a.failed [] fault

/-- The outcome of a handler for a request that got through to it. -/
def handle (a : App) (r : Route) (params : Table Value) (q : Http.Request) (x : Exchange) :
    Outcome :=
  match r.handler with
  | .arguments slot =>
      let values := arguments a.settings slot x.attributes
      (a.replied x.events (some (.arguments r.index values)) (.ok handledReply)).byHandler
  | .count =>
      match countArgument r params q with
      | .ok n => (a.replied x.events (some (.count r.index n)) (.ok handledReply)).byHandler
      | .error (part, problem, input) =>
          a.replied x.events none (a.countReply part problem input)
  | .fail message => (a.failed x.events (.raised message)).byHandler
  | .listing => (a.replied x.events none (listingReply a.gate.registry)).byHandler
  | .page p => (a.replied x.events none (a.pageReply p)).byHandler

/-- What verification does with a request of a route. -/
def verification (a : App) (r : Route) (params : Table Value) (q : Http.Request) :
    Run Exchange Unit := do
  let inbound ← Run.lift <| Inbound.ofValues (.string r.path) (.string q.method) r.version
    (.map (Http.sources params q))
  a.gate.verify a.hooks inbound

/-- What comes of a request that was verified: what was sent is its answer, and it may pass only if
it was continued. -/
def passageOf (outcome : Except Fault Unit) (x : Exchange) : Passage :=
  match outcome with
  | .error fault => .failed fault
  | .ok () =>
      match x.reply with
      | some reply => .rejected reply
      | none =>
          if x.continued = 0 then
            match incompleteReply with
            | .ok reply => .rejected reply
            | .error fault => .failed fault
          else .passed

/-- Resolves dependencies in order; the first that lets the request not pass ends it. -/
def resolve (a : App) (r : Route) (params : Table Value) (q : Http.Request) (x : Exchange) :
    List Dependency → Passage × Exchange
  | [] => (.passed, x)
  | .named name :: rest =>
      a.resolve r params q { x with events := x.events ++ [.dependency name] } rest
  | .verification :: rest =>
      let (outcome, y) := (a.verification r params q).exec x
      match passageOf outcome y with
      | .passed => a.resolve r params q y rest
      | passage => (passage, y)

/-- The outcome of a request of a route. -/
def serveRoute (a : App) (r : Route) (params : Table Value) (q : Http.Request) : Outcome :=
  match a.resolve r params q .fresh r.dependencies with
  | (.passed, x) => a.handle r params q x
  | (.rejected reply, x) => a.replied x.events none (.ok reply)
  | (.failed fault, x) => a.failed x.events fault

/-- The outcome of a request. -/
def serve (a : App) (q : Http.Request) : Outcome :=
  match Route.dispatch a.settings q a.routes with
  | .error fault => a.failed [] fault
  | .ok .unknown => a.replied [] none (detailReply 404 "Not Found")
  | .ok (.redirect path) => a.redirected path q
  | .ok .wrongMethod => a.replied [] none (detailReply 405 "Method Not Allowed")
  | .ok (.route r params) => a.serveRoute r params q

/-! ## Building -/

/-- The route of a page. -/
def pageRoute (p : Page) : Route where
  index := 0
  path := p.path
  template := [.literal p.path.toList]
  methods := ["GET", "HEAD"]
  version := .null
  extra := .null
  dependencies := []
  handler := .page p

/-- The route of the listing at a path. -/
def listingRoute (path : String) : Except Fault Route := do
  let template ← Route.Template.parse path
  .ok
    { index := 0
      path := path
      template := template
      methods := [standardMethod]
      version := .null
      extra := .null
      dependencies := []
      handler := .listing }

/-- The path of the listing: the given one, or else that of the settings. -/
def listingPath (s : Settings) (given : Option String) : String := given.getD s.infoPath

/-- The application of a router, whose routes stand behind a further front. The pages come before
the routes, and after them the listing, if it has a path. -/
def ofRouter (r : Router) (front : String) (s : Settings) (hooks : Hooks)
    (handlesFailures : Bool) (framework : Framework) (infoPath : Option String) :
    Except Fault App := do
  let path := listingPath s infoPath
  let listing ← if path = "" then .ok [] else (listingRoute path).map ([·])
  Router.checkFront front
  Router.checkPaths front r.routes
  let routes ← Router.behind front r.routes
  .ok ⟨r.gate, s, hooks, handlesFailures, framework,
    Page.all.map pageRoute ++ listing ++ routes⟩

end App

end ParamGate
