import ParamGate.Text.Case
import ParamGate.Text.Trim
import ParamGate.Value.Literal

/-!
# Names of parameter types

A type is named by its own name or an alias, in any case and with blanks around it.
-/

namespace ParamGate.Kind

/-- The type of a trimmed name in lower case. -/
def ofName? : String → Option Kind
  | "any" => some .any
  | "*" => some .any
  | "string" => some .string
  | "boolean" => some .boolean
  | "bool" => some .boolean
  | "number" => some .number
  | "float" => some .number
  | "double" => some .number
  | "integer" => some .integer
  | "short" => some .integer
  | "int" => some .integer
  | _ => none

/-- The type that a text names. -/
def ofToken? (s : String) : Option Kind := ofName? (Text.lower (Text.trim s))

/-- The type that a text names, or the mistake. No name has a surrogate. -/
def parseToken (codes : Text.Codes) : Except Fault Kind :=
  match ofToken? (Text.lossy codes) with
  | some k => .ok k
  | none => .error (.declaration (.unknownType codes))

/-- The type that a value names: a type stands for itself, and only texts name types. -/
def parse : Value → Except Fault Kind
  | .kind k => .ok k
  | .string s => parseToken (Text.codes s)
  | .illFormed codes => parseToken codes
  | v => do
      let shown ← v.literal
      .error (.declaration (.unknownType (Text.codes shown)))

theorem parseToken_of_ofToken? {s : String} {k : Kind} (h : ofToken? s = some k) :
    parseToken (Text.codes s) = .ok k := by
  rw [parseToken, Text.lossy_codes, h]

theorem parse_of_ofToken? {s : String} {k : Kind} (h : ofToken? s = some k) :
    parse (.string s) = .ok k := by
  rw [parse, parseToken_of_ofToken? h]

end ParamGate.Kind
