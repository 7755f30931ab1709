import ParamGate.Endpoint.Listing
import ParamGate.Json.Reader

/-!
# Settings

The settings of an application come from given fields, from variables of the environment, and from
defaults, in this order. Variables are found whatever the case of their names, and an empty variable
is none. The search order is written as JSON in the environment. All findings about fields are
reported together, in the order of the fields.
-/

namespace ParamGate

/-- Settings. -/
structure Settings where
  projectName : String
  environment : String
  order : List String
  slot : String
  versionHeader : String
  infoPath : String
deriving DecidableEq, Inhabited

namespace Settings

/-- Settings when nothing is given. -/
def standard : Settings where
  projectName := "apiverifier"
  environment := "production"
  order := standardOrder
  slot := standardSlot
  versionHeader := "accept-version"
  infoPath := ""

/-- Environments that there are. -/
def environments : List String := ["local", "development", "staging", "production"]

/-- The environments as messages show them. -/
def environmentsText : String :=
  String.intercalate ", " (environments.dropLast.map Value.quoted) ++ " or " ++
    String.join (environments.getLast?.toList.map Value.quoted)

/-- Whether rejections and failures are reported in detail. -/
def isDevelopment (s : Settings) : Bool :=
  s.environment == "local" || s.environment == "development"

/-- Variables of an environment. -/
abbrev Variables := List (String × String)

/-- The variable of a name in any case that is not empty; of several the last counts. -/
def valueIn? (env : Variables) (name : String) : Option String :=
  (env.reverse.find? fun v => Text.lower v.1 == Text.lower name && v.2 != "").map Prod.snd

/-- What is given for a field that holds a text. -/
def givenText (given : List (String × Value)) (env : Variables) (name : String) :
    Option Value :=
  given.lookup name <|> (valueIn? env name).map .string

/-- The order in the environment; a null there counts as no order. -/
def variableOrder (env : Variables) : Except Fault (Option Value) :=
  match valueIn? env "PARAM_ORDER" with
  | none => .ok none
  | some s =>
      match Json.read? (Text.codes s) with
      | none => .error (.unreadableSetting "PARAM_ORDER")
      | some .null => .ok none
      | some v => .ok (some v)

/-- A text field. -/
def textOf (name : String) (standard : String) (given : Option Value) :
    Except (List FieldFinding) String :=
  match given with
  | none => .ok standard
  | some v => (Listing.textField name v).mapError fun f => [f]

/-- The environment field, which has to be one of the environments. -/
def environmentOf (given : Option Value) : Except (List FieldFinding) String :=
  match given with
  | none => .ok standard.environment
  | some v =>
      match v.asText? with
      | some s => if environments.contains s then .ok s else refused v
      | none => refused v
where
  /-- The finding about a value that is no environment. -/
  refused (v : Value) : Except (List FieldFinding) String :=
    .error [.ofValue ["ENVIRONMENT"] (.notListed environmentsText) v]

/-- The texts of a list, or the findings about its items; `index` is the place of the first. -/
def textItems (name : String) (index : Nat) :
    List Value → List String × List FieldFinding
  | [] => ([], [])
  | v :: vs =>
      let (texts, findings) := textItems name (index + 1) vs
      match Listing.textField name v with
      | .ok s => (s :: texts, findings)
      | .error f => (texts, { f with place := [name, index.repr] } :: findings)

/-- The order field, which has to be a list of texts. -/
def orderOf (given : Option Value) : Except (List FieldFinding) (List String) :=
  match given with
  | none => .ok standard.order
  | some v =>
      match v.items? with
      | none => .error [.ofValue ["PARAM_ORDER"] .notList v]
      | some items =>
          match textItems "PARAM_ORDER" 0 items with
          | (texts, []) => .ok texts
          | (_, findings) => .error findings

/-- Findings about a field. -/
def findings {α : Type} : Except (List FieldFinding) α → List FieldFinding
  | .ok _ => []
  | .error fs => fs

/-- Settings of given fields in an environment. Fields that settings do not have are ignored. -/
def ofFields (env : Variables) (given : List (String × Value)) : Except Fault Settings := do
  let fromVariable ← variableOrder env
  let text (name standard : String) := textOf name standard (givenText given env name)
  let project := text "PROJECT_NAME" standard.projectName
  let environment := environmentOf (givenText given env "ENVIRONMENT")
  let order := orderOf (given.lookup "PARAM_ORDER" <|> fromVariable)
  let slot := text "PARAM_MAP" standard.slot
  let header := text "VERSION_HEADER" standard.versionHeader
  let infoPath := text "API_INFO_PATH" standard.infoPath
  match project, environment, order, slot, header, infoPath with
  | .ok project, .ok environment, .ok order, .ok slot, .ok header, .ok infoPath =>
      .ok ⟨project, environment, order, slot, header, infoPath⟩
  | _, _, _, _, _, _ =>
      .error (.invalid "Settings" (findings project ++ findings environment ++ findings order ++
        findings slot ++ findings header ++ findings infoPath))

end Settings

/-- Defaults that settings give, with the given hooks. -/
def Defaults.ofSettings (s : Settings) (error success validate : Value) : Defaults where
  order := .tuple (s.order.map .string)
  slot := .string s.slot
  error := error
  success := success
  validate := validate
  development := .bool s.isDevelopment

end ParamGate
