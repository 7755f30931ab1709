import ParamGate.Binary64.Basic
import ParamGate.Text.Surrogate

/-!
# Values

The dynamic values that declarations, requests and hooks exchange, with their truth, the names of
their types, and the key under which a mapping stores each. Two values have the same key exactly
when a mapping takes them for the same entry: numbers by their magnitude, whatever their type.
-/

namespace ParamGate

/-- Types that a parameter can declare. -/
inductive Kind where
  | any
  | string
  | boolean
  | number
  | integer
deriving DecidableEq, Inhabited

/-- Name of a type in declarations and answers. -/
def Kind.name : Kind → String
  | .any => "any"
  | .string => "string"
  | .boolean => "boolean"
  | .number => "number"
  | .integer => "integer"

/-- A function supplied by the application; its behaviour is looked up by `slot`. -/
structure Hook where
  name : String
  slot : Nat
deriving DecidableEq, Inhabited

/-- A file of a form. Its number tells it from the other files of the form. -/
structure Upload where
  number : Nat
  filename : Text.Codes
  headers : List (String × String)
  data : List UInt8
deriving DecidableEq, Inhabited

/-- The ten fields of a parameter declaration. -/
structure ParamFields (α : Type) where
  type : α
  array : α
  default : α
  required : α
  min : α
  max : α
  description : α
  validate : α
  error : α
  success : α

/-- Values. The entries of a map are in insertion order and have distinct keys. A text is a string,
or a list of codes if a surrogate is among them. -/
inductive Value where
  | null
  | bool (b : Bool)
  | int (n : Int)
  | float (x : Binary64)
  | string (s : String)
  | illFormed (codes : Text.Codes)
  | bytes (bs : List UInt8)
  | list (items : List Value)
  | tuple (items : List Value)
  | map (entries : List (Value × Value))
  | kind (k : Kind)
  | hook (h : Hook)
  | upload (u : Upload)
  | definition (d : ParamFields Value)
deriving Inhabited

/-- Declaration of one parameter. The parser gives it a kind, a flag and numeric bounds; a
declaration that was not parsed may hold anything. -/
abbrev Definition := ParamFields Value

namespace Value

/-- Name of a value's type. -/
def typeName : Value → String
  | .null => "NoneType"
  | .bool _ => "bool"
  | .int _ => "int"
  | .float _ => "float"
  | .string _ => "str"
  | .illFormed _ => "str"
  | .bytes _ => "bytes"
  | .list _ => "list"
  | .tuple _ => "tuple"
  | .map _ => "dict"
  | .kind _ => "ParamType"
  | .hook _ => "function"
  | .upload _ => "UploadFile"
  | .definition _ => "ParameterDefinition"

/-- Truth of a value: null, false, zero and empty values are false. -/
def truthy : Value → Bool
  | .null => false
  | .bool b => b
  | .int n => n != 0
  | .float x => x.isNonzero
  | .string s => s != ""
  | .illFormed codes => !codes.isEmpty
  | .bytes bs => !bs.isEmpty
  | .list items => !items.isEmpty
  | .tuple items => !items.isEmpty
  | .map entries => !entries.isEmpty
  | .kind _ => true
  | .hook _ => true
  | .upload _ => true
  | .definition _ => true

/-- Absence. -/
def isNull : Value → Bool
  | .null => true
  | _ => false

theorem isNull_iff {v : Value} : v.isNull = true ↔ v = .null := by
  constructor
  · intro h
    cases v with
    | null => rfl
    | _ => simp [isNull] at h
  · rintro rfl
    rfl

/-- The first value if it is true, else the second. -/
def orElse (a b : Value) : Value := if a.truthy then a else b

/-- The text of codes. -/
def ofCodes (codes : Text.Codes) : Value :=
  match Text.ofCodes? codes with
  | some cs => .string (String.ofList cs)
  | none => .illFormed codes

/-- The value of the codes of a well-formed text is that text. -/
@[simp] theorem ofCodes_codes (s : String) : ofCodes (Text.codes s) = .string s := by
  simp [ofCodes, Text.codes, Text.ofCodes?_codesOf]

/-- The codes of a value that is a text. -/
def codes? : Value → Option Text.Codes
  | .string s => some (Text.codes s)
  | .illFormed codes => some codes
  | .kind k => some (Text.codes k.name)
  | _ => none

theorem codes?_ofCodes (codes : Text.Codes) : (ofCodes codes).codes? = some codes := by
  unfold ofCodes
  split
  · rename_i cs hcs
    rw [Text.ofCodes?_eq_some_iff.1 hcs]
    simp [codes?, Text.codes]
  · rfl

/-- The characters of a value that is a well-formed text. -/
def asText? : Value → Option String
  | .string s => some s
  | .kind k => some k.name
  | _ => none

/-- Values that can be called. -/
def isCallable : Value → Bool
  | .hook _ => true
  | _ => false

/-- Items of a list or tuple. -/
def items? : Value → Option (List Value)
  | .list items => some items
  | .tuple items => some items
  | _ => none

/-- Entries of a map. -/
def entries? : Value → Option (List (Value × Value))
  | .map entries => some entries
  | _ => none

end Value

end ParamGate
