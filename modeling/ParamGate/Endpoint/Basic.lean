import ParamGate.Parameter.Declaration
import ParamGate.Text.Case
import ParamGate.Value.Parts

/-!
# Endpoints

An endpoint is declared by a mapping of parameters, hooks and settings. What the declaration leaves
out comes from the defaults, and a parameter without a hook of its own takes the hook of its
endpoint. The first wrong parameter in declaration order decides the mistake that is reported.
-/

namespace ParamGate

open Text

/-- What endpoints use when their declaration does not say. -/
structure Defaults where
  order : Value
  slot : Value
  error : Value
  success : Value
  validate : Value
  development : Value

/-- Sources that are searched when nothing else is said, highest precedence first. -/
def standardOrder : List String := ["params", "query", "body"]

/-- Attribute that receives the parameters when nothing else is said. -/
def standardSlot : String := "args"

/-- Defaults without hooks, outside development. -/
def Defaults.standard : Defaults where
  order := .tuple (standardOrder.map .string)
  slot := .string standardSlot
  error := .null
  success := .null
  validate := .null
  development := .bool false

/-- A configured endpoint. `order` lists the sources to search and `slot` names the attribute that
receives the parameters. -/
structure Endpoint where
  path : Value
  method : Value
  version : Value
  parameters : Table Definition
  order : List Value
  slot : Value
  error : Value
  success : Value
  validate : Value
  description : Value
  development : Value

namespace Endpoint

/-- Whether a registration with this declaration and method is verified: there is a declaration, it
is not a handler, and the method is not that of a parameter route. A method in bytes is no text, so
it is not that one, and neither is one with a surrogate. -/
def isVerified (api method : Value) : Except Fault Bool :=
  if api.isNull || api.isCallable then .ok false
  else
    match method.orElse (.string "") with
    | .bytes _ => .ok true
    | m =>
        match m.codes? with
        | some codes => .ok (lower (lossy codes) != "param")
        | none => .error (.noAttribute method.typeName "lower")

/-- Fields of a mapping that declares an endpoint. -/
def fieldNames : List String :=
  ["params", "param_order", "param_map", "error", "success", "validate", "description"]

/-- Method and path as messages show them. -/
def place (method path : Value) : Except Fault Codes := do
  let m ← method.textCodes
  let p ← path.textCodes
  .ok (m ++ codes " " ++ p)

/-- A definition whose missing hooks are taken from an endpoint. -/
def withHooks (d : Definition) (error success validate : Value) : Definition :=
  { d with
    error := d.error.orElse error
    validate := d.validate.orElse validate
    success := d.success.orElse success }

/-- Definition of one parameter of an endpoint; a mistake in it is reported with its place. -/
def parseParameter (method path name spec : Value) : Except Fault Definition :=
  match Definition.parse spec with
  | .ok d => .ok d
  | .error (.declaration cause) => do
      let place ← place method path
      let shown ← name.textCodes
      refuse (.parameter place shown cause)
  | .error fault => .error fault

/-- Definitions of the parameters of an endpoint. -/
def parseParameters (method path error success validate : Value) :
    Table Value → Except Fault (Table Definition)
  | [] => .ok []
  | (name, spec) :: rest => do
      let d ← parseParameter method path name spec
      let others ← parseParameters method path error success validate rest
      .ok ((name, withHooks d error success validate) :: others)

/-- The sources that a field for the order lists; one text lists itself. -/
def parseOrder (order : Value) : Except Fault (List Value) :=
  match order.codes? with
  | some _ => .ok [order]
  | none => order.parts

/-- A method in upper case: a text, or bytes, of which only the letters of ASCII have a case. -/
def upperMethod (method : Value) : Except Fault Value :=
  match method with
  | .bytes bs => .ok (.bytes (upperBytes bs))
  | .illFormed codes => .ok (.illFormed (upperCodes codes))
  | m =>
      match m.asText? with
      | some s => .ok (.string (upper s))
      | none => .error (.noAttribute method.typeName "upper")

/-- A version, null for every value that is not true. -/
def normalVersion (version : Value) : Value := version.orElse .null

/-- The endpoint of a declaration whose fields are known. -/
def ofFields (path method : Value) (entries : Table Value) (defaults : Defaults)
    (version : Value) : Except Fault Endpoint := do
  let error := (field entries "error").orElse defaults.error
  let success := (field entries "success").orElse defaults.success
  let validate := (field entries "validate").orElse defaults.validate
  match (field entries "params").orElse (.map []) with
  | .map specs =>
      let parameters ← parseParameters method path error success validate specs
      let upper ← upperMethod method
      let order ← parseOrder ((field entries "param_order").orElse defaults.order)
      let _ ← Value.texts 0 parameters.keys
      .ok
        { path := path
          method := upper
          version := normalVersion version
          parameters := parameters
          order := order
          slot := ((field entries "param_map").orElse defaults.slot).orElse (.string standardSlot)
          error := error
          success := success
          validate := validate
          description := field entries "description"
          development := defaults.development }
  | _ => do
      let place ← place method path
      refuse (.parametersNotMapping place)

/-- The endpoint that a value declares. -/
def ofDeclaration (path method api : Value) (defaults : Defaults) (version : Value) :
    Except Fault Endpoint :=
  match api with
  | .map entries =>
      match unknownKeys fieldNames entries with
      | [] => ofFields path method entries defaults version
      | unknown => do
          let place ← place method path
          let names ← Value.sortedTexts unknown
          refuse (.unknownEndpointFields place names)
  | v => do
      let place ← place method path
      refuse (.endpointNotMapping place v.typeName)

end Endpoint

end ParamGate
