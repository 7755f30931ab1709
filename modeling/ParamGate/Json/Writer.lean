import ParamGate.Value.Literal

/-!
# Writing JSON

The compact JSON text of a value: no blanks, keys in order, characters beyond ASCII as they are.
Not-a-number and the infinities have no JSON text, nor have bytes, functions, files and
declarations. Keys that are numbers, truth values or null are written as texts.

A value is first made into one text by `dump`, and that text is then encoded, which a surrogate
prevents. So a part that cannot be written is found before a surrogate that stands earlier. How deep
lists and maps may be nested is not limited here.
-/

namespace ParamGate.Json

open Text

/-- One character inside a JSON text. -/
def escaped (c : Char) : List Char :=
  if c = '"' ∨ c = '\\' then ['\\', c]
  else if c = '\n' then ['\\', 'n']
  else if c = '\r' then ['\\', 'r']
  else if c = '\t' then ['\\', 't']
  else if c.toNat = 8 then ['\\', 'b']
  else if c.toNat = 12 then ['\\', 'f']
  else if c.toNat < 32 then '\\' :: 'u' :: (hex 4 c.toNat).toList
  else [c]

/-- A text in JSON. -/
def quoted (s : String) : String := String.ofList ('"' :: s.toList.flatMap escaped ++ ['"'])

/-- A number in JSON. -/
def floatText : Binary64 → Except Fault String
  | .finite negative units => .ok (Binary64.text (.finite negative units))
  | _ => .error .notFinite

/-- Text of a key, with surrogates replaced. -/
def keyText : Value → Except Fault String
  | .string s => .ok s
  | .illFormed codes => .ok (lossy codes)
  | .kind k => .ok k.name
  | .float x => floatText x
  | .bool b => .ok (if b then "true" else "false")
  | .null => .ok "null"
  | .int n => Value.integerText n
  | v => .error (.notJsonKey v.typeName)

mutual

/-- JSON text of a value, with surrogates replaced. -/
def dump : Value → Except Fault String
  | .null => .ok "null"
  | .bool b => .ok (if b then "true" else "false")
  | .int n => Value.integerText n
  | .float x => floatText x
  | .string s => .ok (quoted s)
  | .illFormed codes => .ok (quoted (lossy codes))
  | .kind k => .ok (quoted k.name)
  | .list items => do
      let parts ← dumpItems items
      .ok ("[" ++ String.intercalate "," parts ++ "]")
  | .tuple items => do
      let parts ← dumpItems items
      .ok ("[" ++ String.intercalate "," parts ++ "]")
  | .map entries => do
      let parts ← dumpEntries entries
      .ok ("\x7b" ++ String.intercalate "," parts ++ "\x7d")
  | .bytes bs => .error (.notJson (Value.bytes bs).typeName)
  | .hook h => .error (.notJson (Value.hook h).typeName)
  | .upload u => .error (.notJson (Value.upload u).typeName)
  | .definition d => .error (.notJson (Value.definition d).typeName)

/-- JSON texts of the items of a list. -/
def dumpItems : List Value → Except Fault (List String)
  | [] => .ok []
  | v :: vs => do
      let s ← dump v
      let rest ← dumpItems vs
      .ok (s :: rest)

/-- JSON texts of the entries of a map. -/
def dumpEntries : List (Value × Value) → Except Fault (List String)
  | [] => .ok []
  | (k, v) :: rest => do
      let key ← keyText k
      let value ← dump v
      let parts ← dumpEntries rest
      .ok ((quoted key ++ ":" ++ value) :: parts)

end

mutual

/-- Whether a text with a surrogate is written for a value. -/
def hasSurrogate : Value → Bool
  | .illFormed _ => true
  | .list items => itemsHaveSurrogate items
  | .tuple items => itemsHaveSurrogate items
  | .map entries => entriesHaveSurrogate entries
  | _ => false

/-- Whether a text with a surrogate is written for an item. -/
def itemsHaveSurrogate : List Value → Bool
  | [] => false
  | v :: vs => hasSurrogate v || itemsHaveSurrogate vs

/-- Whether a text with a surrogate is written for an entry: for its key or its value. -/
def entriesHaveSurrogate : List (Value × Value) → Bool
  | [] => false
  | (k, v) :: rest => hasSurrogate k || hasSurrogate v || entriesHaveSurrogate rest

end

/-- JSON text of a value. -/
def write (v : Value) : Except Fault String := do
  let s ← dump v
  if hasSurrogate v then .error .loneSurrogate else .ok s

end ParamGate.Json
