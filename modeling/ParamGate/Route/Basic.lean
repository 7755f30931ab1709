import ParamGate.Gate.Basic
import ParamGate.Http.Request
import ParamGate.Route.Template
import ParamGate.Route.Version

/-!
# Routes

A route answers requests whose path matches its template, with one of its methods. A route with a
version answers only requests that ask for no version or for that one. The first route that matches
with its method is taken; if there is none, a route that matches with other methods tells that the
path exists. A request whose path no route has is sent to the path with a slash more at its end, or
without the slashes there, if a route has that one.
-/

namespace ParamGate

/-- Pages about the application itself. -/
inductive Page where
  | schema
  | docs
  | signIn
  | reference
deriving DecidableEq

namespace Page

/-- All pages in the order of their routes. -/
def all : List Page := [.schema, .docs, .signIn, .reference]

/-- Path of a page. -/
def path : Page → String
  | .schema => "/openapi.json"
  | .docs => "/docs"
  | .signIn => "/docs/oauth2-redirect"
  | .reference => "/redoc"

/-- Media type of a page. -/
def mediaType : Page → String
  | .schema => jsonType
  | _ => "text/html; charset=utf-8"

end Page

/-- What a route does with a request that reaches it. -/
inductive Handler where
  /-- Takes the verified parameters from the attribute that the slot names, if one is given. -/
  | arguments (slot : Option String)
  /-- Takes an integer from the request. -/
  | count
  | fail (message : String)
  /-- Lists the endpoints. -/
  | listing
  | page (p : Page)

/-- What is resolved before the handler of a route runs. -/
inductive Dependency where
  /-- The gate decides the request. -/
  | verification
  /-- A dependency that the route declares. -/
  | named (name : String)
deriving DecidableEq

/-- A route. `path` is the path under which it was registered and its requests are verified, if they
are; the template may stand behind a further front. The dependencies are resolved in order. -/
structure Route where
  index : Nat
  path : String
  template : Route.Template
  methods : List String
  version : Value
  extra : Value
  dependencies : List Dependency
  handler : Handler

namespace Route

/-- How far a route matches a request. -/
inductive MatchResult where
  | none
  /-- The path matches, the method does not. -/
  | path (params : Table Value)
  | full (params : Table Value)

/-- Whether a route answers requests for the wanted version. -/
def admits (r : Route) (wanted : Option String) : Bool :=
  match wanted with
  | none => true
  | some v => (Value.string v).equal r.version

/-- How far a route matches a request, leaving versions aside. -/
def matchUnversioned (r : Route) (q : Http.Request) : Except Fault MatchResult :=
  (r.template.matchPath? q.path).map fun
    | none => .none
    | some params => if r.methods.contains q.method then .full params else .path params

/-- How far a route matches a request. -/
def matchRequest (s : Settings) (r : Route) (q : Http.Request) : Except Fault MatchResult := do
  match ← r.matchUnversioned q with
  | .none => .ok .none
  | found =>
      if r.version.isNull then .ok found
      else (requestedVersion s q.headers).map fun wanted =>
        if r.admits wanted then found else .none

/-- Where a request goes. -/
inductive Destination where
  | route (r : Route) (params : Table Value)
  /-- A route has the path, but none has the method too. -/
  | wrongMethod
  /-- No route has the path, but one has this path instead. -/
  | redirect (path : String)
  | unknown

/-- Where a request goes by its own path; `seen` says that an earlier route has the path. -/
def dispatchFrom (s : Settings) (q : Http.Request) (seen : Bool) :
    List Route → Except Fault Destination
  | [] => .ok (if seen then .wrongMethod else .unknown)
  | r :: rest => do
      match ← r.matchRequest s q with
      | .full params => .ok (.route r params)
      | .path _ => dispatchFrom s q true rest
      | .none => dispatchFrom s q seen rest

/-- The path that a path may stand for: with a slash more at its end, or without the slashes that it
has there. The path of one slash stands for no other. -/
def twin? (path : String) : Option String :=
  if path = "/" then none
  else
    match path.toList.reverse with
    | '/' :: rest => some (String.ofList (rest.dropWhile (· == '/')).reverse)
    | _ => some (path ++ "/")

/-- Whether a route has the path of a request, with whatever methods. -/
def hasPath (s : Settings) (q : Http.Request) : List Route → Except Fault Bool
  | [] => .ok false
  | r :: rest => do
      match ← r.matchRequest s q with
      | .none => hasPath s q rest
      | _ => .ok true

/-- Where a request goes whose own path no route has. -/
def redirect (s : Settings) (q : Http.Request) (routes : List Route) :
    Except Fault Destination :=
  match twin? q.path with
  | none => .ok .unknown
  | some path =>
      (hasPath s { q with path := path } routes).map fun found =>
        if found then .redirect path else .unknown

/-- Where a request goes. -/
def dispatch (s : Settings) (q : Http.Request) (routes : List Route) :
    Except Fault Destination := do
  match ← dispatchFrom s q false routes with
  | .unknown => redirect s q routes
  | found => .ok found

end Route

end ParamGate
