import ParamGate.Endpoint.Registry
import ParamGate.Json.Writer
import ParamGate.Text.Utf8
import ParamGate.Value.Finding

/-!
# The listing of endpoints

A description of every registered endpoint, sorted by path, method and version. The listing has
typed fields, so a declaration whose description is no text, or whose bound is too large for a
floating number, has no listing; the findings name the field and what is wrong with it.
-/

namespace ParamGate

/-- Description of a parameter. -/
structure ParameterInfo where
  name : String
  type : String
  array : Bool
  required : Bool
  default : Value
  min : Option Binary64
  max : Option Binary64
  description : Option String

/-- Description of an endpoint. -/
structure EndpointInfo where
  path : String
  method : String
  version : Option String
  description : Option String
  parameters : List ParameterInfo

namespace Listing

/-- A text field. Bytes are read as UTF-8. -/
def textField (place : String) (v : Value) : Except FieldFinding String :=
  let found (mistake : FieldMistake) : Except FieldFinding String :=
    .error (.ofValue [place] mistake v)
  match v with
  | .bytes bs =>
      match Text.decode? bs with
      | some cs => .ok (String.ofList cs)
      | none => found .notUnicode
  | .illFormed _ => found .notUnicode
  | _ =>
      match v.asText? with
      | some s => .ok s
      | none => found .notText

/-- A text field that may be null. -/
def optionalText (place : String) (v : Value) : Except FieldFinding (Option String) :=
  if v.isNull then .ok none else (textField place v).map some

/-- A bound as a floating number; null stays null. -/
def boundField (place : String) (v : Value) : Except FieldFinding (Option Binary64) :=
  match v with
  | .null => .ok none
  | .float x => .ok (some x)
  | .int n =>
      match Binary64.ofInt n with
      | .infinite _ => .error (.ofValue [place] .notNumber v)
      | x => .ok (some x)
  | _ => .error (.ofValue [place] .notNumber v)

/-- The finding of a field. -/
def finding {α : Type} : Except FieldFinding α → List FieldFinding
  | .ok _ => []
  | .error f => [f]

/-- Description of a parameter. -/
def parameterInfo (name : Value) (d : Definition) : Except Fault ParameterInfo :=
  let type : Except Fault String := match d.type with
    | .kind k => .ok k.name
    | v => .error (.noAttribute v.typeName "value")
  type.bind fun type =>
    let shown := textField "name" name
    let min := boundField "min" d.min
    let max := boundField "max" d.max
    let description := optionalText "description" d.description
    match shown, min, max, description with
    | .ok shown, .ok min, .ok max, .ok description =>
        .ok ⟨shown, type, d.array.truthy, d.required.truthy, d.default, min, max, description⟩
    | _, _, _, _ =>
        .error (.invalid "ParamInfo"
          (finding shown ++ finding min ++ finding max ++ finding description))

/-- Descriptions of parameters in order. -/
def parameterInfos : Table Definition → Except Fault (List ParameterInfo)
  | [] => .ok []
  | (name, d) :: rest => do
      let info ← parameterInfo name d
      let others ← parameterInfos rest
      .ok (info :: others)

/-- Description of the endpoint under a key. -/
def endpointInfo (k : EndpointKey) (e : Endpoint) : Except Fault EndpointInfo := do
  let parameters ← parameterInfos e.parameters
  let path := textField "path" k.path
  let method := textField "method" k.method
  let version := optionalText "version" k.version
  let description := optionalText "description" e.description
  match path, method, version, description with
  | .ok path, .ok method, .ok version, .ok description =>
      .ok ⟨path, method, version, description, parameters⟩
  | _, _, _, _ =>
      .error (.invalid "EndpointInfo"
        (finding path ++ finding method ++ finding version ++ finding description))

/-- Descriptions of endpoints in order. -/
def endpointInfos : List (EndpointKey × Endpoint) → Except Fault (List EndpointInfo)
  | [] => .ok []
  | (k, e) :: rest => do
      let info ← endpointInfo k e
      let others ← endpointInfos rest
      .ok (info :: others)

/-- Order of keys: by path, then by method, then by version, where no version comes first. -/
def keyBelow (a b : EndpointKey) : Except Fault Bool :=
  let parts (k : EndpointKey) : Value :=
    .tuple [k.path, k.method, k.version.orElse (.string "")]
  (parts a).compare .less (parts b)

/-- The listing of a registry. -/
def ofRegistry (r : Registry Endpoint) : Except Fault (List EndpointInfo) := do
  let sorted ← sortUp (fun a b => keyBelow a.1 b.1) r.entries
  endpointInfos sorted

/-! ## The listing as a value -/

/-- Most levels of a value that is unfolded. -/
def maxLevels : Nat := 255

mutual

/-- A value with every declaration in it replaced by the map of its fields, down to the last level
that is looked at. -/
def unfold (level : Nat) (v : Value) : Value :=
  if level < maxLevels then
    match v with
    | .list items => .list (unfoldItems (level + 1) items)
    | .tuple items => .tuple (unfoldItems (level + 1) items)
    | .map entries => .map (unfoldEntries (level + 1) entries)
    | .definition d => .map (unfoldFields (level + 1) d)
    | v => v
  else v

/-- Items of a list with their declarations replaced. -/
def unfoldItems (level : Nat) : List Value → List Value
  | [] => []
  | v :: vs => unfold level v :: unfoldItems level vs

/-- Entries of a map with the declarations in their values replaced. -/
def unfoldEntries (level : Nat) : List (Value × Value) → List (Value × Value)
  | [] => []
  | (k, v) :: rest => (k, unfold level v) :: unfoldEntries level rest

/-- Fields of a declaration by name, with the declarations in them replaced. -/
def unfoldFields (level : Nat) : ParamFields Value → List (Value × Value)
  | ⟨type, array, default, required, min, max, description, validate, error, success⟩ =>
      [(.string "type", unfold level type), (.string "array", unfold level array),
        (.string "default", unfold level default), (.string "required", unfold level required),
        (.string "min", unfold level min), (.string "max", unfold level max),
        (.string "description", unfold level description),
        (.string "validate", unfold level validate), (.string "error", unfold level error),
        (.string "success", unfold level success)]

end

/-- A text or null. -/
def optionalValue : Option String → Value
  | none => .null
  | some s => .string s

/-- A number or null. -/
def numberValue : Option Binary64 → Value
  | none => .null
  | some x => .float x

end Listing

/-- Value of a description. -/
def ParameterInfo.toValue (p : ParameterInfo) : Value :=
  .map
    [(.string "name", .string p.name), (.string "type", .string p.type),
      (.string "array", .bool p.array), (.string "required", .bool p.required),
      (.string "default", Listing.unfold 0 p.default), (.string "min", Listing.numberValue p.min),
      (.string "max", Listing.numberValue p.max),
      (.string "description", Listing.optionalValue p.description)]

/-- Value of a description. -/
def EndpointInfo.toValue (e : EndpointInfo) : Value :=
  .map
    [(.string "path", .string e.path), (.string "method", .string e.method),
      (.string "version", Listing.optionalValue e.version),
      (.string "description", Listing.optionalValue e.description),
      (.string "params", .list (e.parameters.map ParameterInfo.toValue))]

end ParamGate
