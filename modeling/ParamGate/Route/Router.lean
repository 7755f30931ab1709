import ParamGate.Route.Basic

/-!
# The router

Registers routes, each with an optional declaration of its parameters and an optional version. The
declaration is configured on the gate for every method of the route that is to be verified. What the
gate has registered stays registered when a later step of the same registration fails.
-/

namespace ParamGate

/-- Registration of a route. Without methods the route has the method for reading. -/
structure RouteDeclaration where
  index : Nat
  path : String
  api : Value
  version : Value
  methods : List String
  extra : Value
  dependencies : List String
  handler : Handler

/-- A router on a gate; its front stands before the path of every route. -/
structure Router where
  gate : Gate
  front : String
  routes : List Route

namespace Router

/-- A front is empty, or it starts with a slash and does not end with one. -/
def checkFront (front : String) : Except Fault Unit :=
  let cs := front.toList
  if cs = [] then .ok ()
  else if cs.head? ≠ some '/' then .error .frontStart
  else if cs.getLast? = some '/' then .error .frontEnd
  else .ok ()

/-- The router without routes on a gate. -/
def ofFront (gate : Gate) (front : String) : Except Fault Router := do
  checkFront front
  .ok ⟨gate, front, []⟩

/-- Name under which the extra data of a route holds its version. -/
def versionName : Value := .string "x-api-version"

/-- Extra data with the version of the route, if it has one. -/
def withVersion (extra version : Value) : Except Fault Value :=
  if version.truthy then
    match extra.orElse (.map []) with
    | .map entries => .ok (.map (Table.put entries versionName version))
    | v => .error (.notMapping v.typeName)
  else .ok extra

/-- The version that extra data hold. -/
def versionOf (extra : Value) : Except Fault Value :=
  match extra.orElse (.map []) with
  | .map entries => .ok ((Table.get? entries versionName).getD .null)
  | v => .error (.noAttribute v.typeName "get")

/-- The methods of a registration. -/
def methodsOf (d : RouteDeclaration) : List String :=
  if d.methods.isEmpty then [standardMethod] else d.methods

/-- The methods for which requests are verified. -/
def verifiedMethods (api : Value) : List String → Except Fault (List String)
  | [] => .ok []
  | m :: rest => do
      let verified ← Endpoint.isVerified api (.string m)
      let others ← verifiedMethods api rest
      .ok (if verified then m :: others else others)

/-- Configures a declaration for methods in order. The gate is the one reached when it stops. -/
def configureAll (path : String) (api version : Value) (g : Gate) :
    List String → Gate × Except Fault Unit
  | [] => (g, .ok ())
  | m :: rest =>
      match g.configure (.string path) (.string m) api version with
      | .error fault => (g, .error fault)
      | .ok (next, _) => configureAll path api version next rest

/-- The dependencies of a route. The verification of its requests comes before those that it
declares. -/
def dependenciesOf (d : RouteDeclaration) (verified : List String) : List Dependency :=
  let declared := d.dependencies.map .named
  if verified.isEmpty then declared else .verification :: declared

/-- The route of a registration whose declaration is configured. -/
def makeRoute (d : RouteDeclaration) (path : String) (methods verified : List String)
    (extra : Value) : Except Fault Route := do
  let template ← Route.Template.parse path
  let version ← versionOf extra
  .ok
    { index := d.index
      path := path
      template := template
      methods := methods.map Text.upper
      version := version
      extra := extra
      dependencies := dependenciesOf d verified
      handler := d.handler }

/-- Adds a route. -/
def add (r : Router) (d : RouteDeclaration) : Router × Except Fault Route :=
  let methods := methodsOf d
  let path := r.front ++ d.path
  match withVersion d.extra d.version, verifiedMethods d.api methods with
  | .error fault, _ => (r, .error fault)
  | .ok _, .error fault => (r, .error fault)
  | .ok extra, .ok verified =>
      match configureAll path d.api d.version r.gate verified with
      | (g, .error fault) => ({ r with gate := g }, .error fault)
      | (g, .ok ()) =>
          match makeRoute d path methods verified extra with
          | .error fault => ({ r with gate := g }, .error fault)
          | .ok route => ({ r with gate := g, routes := r.routes ++ [route] }, .ok route)

/-- Without a front, every route has to have a path. -/
def checkPaths (front : String) (routes : List Route) : Except Fault Unit :=
  if front = "" && routes.any fun r => r.path = "" then .error .emptyPath else .ok ()

/-- Routes behind a further front. -/
def behind (front : String) : List Route → Except Fault (List Route)
  | [] => .ok []
  | r :: rest => do
      let template ← Route.Template.parse (front ++ r.path)
      let others ← behind front rest
      .ok ({ r with template := template } :: others)

end Router

end ParamGate
