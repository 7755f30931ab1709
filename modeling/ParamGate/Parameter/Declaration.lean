import ParamGate.Parameter.Coercion
import ParamGate.Parameter.Compact
import ParamGate.Value.Sort

/-!
# Parameter declarations

A parameter is declared by a compact text or by a mapping of fields. Both become a `Definition`.
A parameter with a default is never required, so a default never hides a missing value.
-/

namespace ParamGate

open Text

/-- A fault for a mistake in a declaration. -/
def refuse {α : Type} (cause : DeclarationError) : Except Fault α := .error (.declaration cause)

/-- The field of a mapping, null if it is missing. -/
def field (entries : Table Value) (name : String) : Value :=
  (entries.get? (.string name)).getD .null

/-- The keys of a mapping that are not among the known names. -/
def unknownKeys (known : List String) (entries : Table Value) : List Value :=
  entries.keys.filter fun k => !(known.any fun name => k.key == .text name)

/-- Texts that declare a parameter not required. -/
def notRequiredWords : List String := ["FALSE", "false", "F", "f", "no", "n"]

/-- Whether the field for being required says no: false, zero or one of the words. -/
def saysNotRequired : Value → Bool
  | .bool b => !b
  | .int n => n == 0
  | .float x => !x.isNonzero
  | .string s => notRequiredWords.contains s
  | _ => false

/-- Whether a parameter is required: neither does its declaration say no, nor has it a default. -/
def parseRequired (value default : Value) : Bool := !saysNotRequired value && default.isNull

/-- A bound: null or a number that is no truth value. -/
def parseBound (name : String) (value : Value) : Except Fault Value :=
  match value with
  | .null => .ok .null
  | .int n => .ok (.int n)
  | .float x => .ok (.float x)
  | _ => do
      let shown ← value.literal
      refuse (.badBound name shown)

namespace Definition

/-- Definition of a parameter declared in the compact form. -/
def ofCompact (codes : Codes) : Except Fault Definition :=
  match CompactForm.read? codes with
  | none => refuse (.unreadable (Value.quotedCodes codes))
  | some form => do
      let k ← Kind.parseToken form.name
      let default ← coerce k form.array (form.default.elim .null .ofCodes)
      .ok
        { type := .kind k
          array := .bool form.array
          default := default
          required := .bool form.default.isNone
          min := .null
          max := .null
          description := .null
          validate := .null
          error := .null
          success := .null }

/-- Fields of a mapping that declares a parameter. -/
def fieldNames : List String :=
  ["type", "array", "default", "required", "min", "max", "description", "validate", "error",
    "success"]

/-- Definition of a parameter declared by a mapping. -/
def ofMapping (entries : Table Value) : Except Fault Definition :=
  match unknownKeys fieldNames entries with
  | [] =>
      match entries.get? (.string "type") with
      | none => refuse .missingType
      | some type => do
          let default := field entries "default"
          let k ← Kind.parse type
          let min ← parseBound "min" (field entries "min")
          let max ← parseBound "max" (field entries "max")
          .ok
            { type := .kind k
              array := .bool (field entries "array").truthy
              default := default
              required := .bool (parseRequired (field entries "required") default)
              min := min
              max := max
              description := field entries "description"
              validate := field entries "validate"
              error := field entries "error"
              success := field entries "success" }
  | unknown => do
      let names ← Value.sortedTexts unknown
      refuse (.unknownFields names)

/-- Definition of a parameter declared by a value; a definition stands for itself. -/
def parse : Value → Except Fault Definition
  | .definition d => .ok d
  | .map entries => ofMapping entries
  | v =>
      match v.codes? with
      | some codes => ofCompact codes
      | none => refuse (.notDeclaration v.typeName)

end Definition

end ParamGate
