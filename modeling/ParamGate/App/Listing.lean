import ParamGate.Endpoint.Listing
import ParamGate.Exchange.Reply

/-!
# The listing as a reply

The listing of endpoints in JSON, with the number of endpoints. Defaults are shown as JSON can hold
them: a number that is not finite is null, bytes are a text in UTF-8, a tuple is a list, and a
declaration is the map of its fields. Functions and files are not shown. Names in a map are texts,
and of several names that have the same text the first gives the place and the last the value.
-/

namespace ParamGate

/-- The name of the class of files. -/
def uploadClass : String := "starlette.datastructures.UploadFile"

/-- The text of bytes in UTF-8, or the first byte at which they go wrong. -/
def listedBytes (bs : List UInt8) : Except Fault String :=
  match Text.decode? bs with
  | some cs => .ok (String.ofList cs)
  | none =>
      let position := Text.validLength bs
      .error (.notUtf8 ((bs.drop position).headD 0).toNat position)

mutual

/-- The text of a name in a map. The parts of a tuple are joined by commas. -/
def listedName : Value → Except Fault String
  | .null => .ok "None"
  | .bool b => .ok (if b then "true" else "false")
  | .int n => Value.integerText n
  | .float x =>
      match x with
      | .finite negative units => .ok (Binary64.text (.finite negative units))
      | _ => .ok "None"
  | .string s => .ok s
  | .illFormed _ => .error .loneSurrogate
  | .bytes bs => listedBytes bs
  | .kind k => .ok k.name
  | .tuple parts => do
      let names ← listedNames parts
      .ok (String.intercalate "," names)
  | .definition d => (Value.definition d).literal
  | .hook h => .error (.notShown (Value.hook h).typeName)
  | .upload _ => .error (.notShown uploadClass)
  | .list items => .error (.notJsonKey (Value.list items).typeName)
  | .map entries => .error (.notJsonKey (Value.map entries).typeName)

/-- The texts of the parts of a name. -/
def listedNames : List Value → Except Fault (List String)
  | [] => .ok []
  | v :: vs => do
      let name ← listedName v
      let rest ← listedNames vs
      .ok (name :: rest)

end

mutual

/-- A default as the listing shows it, at a level of the default as a whole. -/
def listed (level : Nat) (v : Value) : Except Fault Value :=
  if level < Listing.maxLevels then
    match v with
    | .float x =>
        match x with
        | .finite negative units => .ok (.float (.finite negative units))
        | _ => .ok .null
    | .illFormed _ => .error .loneSurrogate
    | .bytes bs => (listedBytes bs).map .string
    | .kind k => .ok (.string k.name)
    | .hook h => .error (.notShown (Value.hook h).typeName)
    | .upload _ => .error (.notShown uploadClass)
    | .list items => (listedItems (level + 1) items).map .list
    | .tuple items => (listedItems (level + 1) items).map .list
    | .map entries => (listedEntries (level + 1) entries).map fun es => .map (Table.ofList es)
    | .definition d => (listedFields (level + 1) d).map .map
    | v => .ok v
  else .error .tooDeep

/-- Items of a default as the listing shows them. -/
def listedItems (level : Nat) : List Value → Except Fault (List Value)
  | [] => .ok []
  | v :: vs => do
      let s ← listed level v
      let rest ← listedItems level vs
      .ok (s :: rest)

/-- Entries of a default as the listing shows them. -/
def listedEntries (level : Nat) : List (Value × Value) → Except Fault (List (Value × Value))
  | [] => .ok []
  | (k, v) :: rest => do
      let name ← listedName k
      let value ← listed level v
      let parts ← listedEntries level rest
      .ok ((.string name, value) :: parts)

/-- Fields of a declaration as the listing shows them. -/
def listedFields (level : Nat) : ParamFields Value → Except Fault (List (Value × Value))
  | ⟨type, array, default, required, min, max, description, validate, error, success⟩ => do
      let a ← listed level type
      let b ← listed level array
      let c ← listed level default
      let d ← listed level required
      let e ← listed level min
      let f ← listed level max
      let g ← listed level description
      let h ← listed level validate
      let i ← listed level error
      let j ← listed level success
      .ok [(.string "type", a), (.string "array", b), (.string "default", c),
        (.string "required", d), (.string "min", e), (.string "max", f),
        (.string "description", g), (.string "validate", h), (.string "error", i),
        (.string "success", j)]

end

/-- A description with its default as the listing shows it. -/
def ParameterInfo.listed (p : ParameterInfo) : Except Fault ParameterInfo :=
  (ParamGate.listed 0 p.default).map fun v => { p with default := v }

/-- Descriptions with their defaults as the listing shows them. -/
def listedParameters : List ParameterInfo → Except Fault (List ParameterInfo)
  | [] => .ok []
  | p :: ps => do
      let shown ← p.listed
      let rest ← listedParameters ps
      .ok (shown :: rest)

/-- Values of the descriptions of endpoints. -/
def listedEndpoints : List EndpointInfo → Except Fault (List Value)
  | [] => .ok []
  | e :: es => do
      let parameters ← listedParameters e.parameters
      let rest ← listedEndpoints es
      .ok ({ e with parameters := parameters }.toValue :: rest)

/-- Reply with the listing of a registry. -/
def listingReply (r : Registry Endpoint) : Except Fault Reply := do
  let infos ← Listing.ofRegistry r
  let data ← listedEndpoints infos
  Reply.ofValue 200
    (.map [(.string "data", .list data), (.string "count", .int infos.length)])

end ParamGate
