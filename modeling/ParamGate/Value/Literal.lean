import ParamGate.Binary64.Shortest
import ParamGate.Fault
import ParamGate.Value.Basic

/-!
# Texts of values

`literal` writes a value the way messages show it: texts quoted, containers with brackets.
`text` is the same except that a text stands for itself. A text is put in single quotes unless it
holds a single quote and no double quote. Integers of more than 4300 digits have no text.
-/

namespace ParamGate.Value

open Text

/-- Integers from here on have more than 4300 digits. -/
def digitBound : Nat := Nat.pow 10 4300

/-- Decimal text of an integer within the digit limit. -/
def integerText (n : Int) : Except Fault String :=
  if n.natAbs < digitBound then .ok (decimal n) else .error .digitLimit

/-- The quote for characters of which some may be quotes. -/
def quoteFor (cs : List Char) : Char :=
  if cs.contains '\'' && !cs.contains '"' then '"' else '\''

/-- One character inside quotes. -/
def quotedChar (quote c : Char) : List Char :=
  if c = quote ∨ c = '\\' then ['\\', c]
  else if c = '\n' then ['\\', 'n']
  else if c = '\r' then ['\\', 'r']
  else if c = '\t' then ['\\', 't']
  else if isPrintable c then [c]
  else if c.toNat < 0x100 then '\\' :: 'x' :: (hex 2 c.toNat).toList
  else if c.toNat < 0x10000 then '\\' :: 'u' :: (hex 4 c.toNat).toList
  else '\\' :: 'U' :: (hex 8 c.toNat).toList

/-- A text in quotes. -/
def quoted (s : String) : String :=
  let quote := quoteFor s.toList
  String.ofList (quote :: s.toList.flatMap (quotedChar quote) ++ [quote])

/-- One code inside quotes; surrogates are escaped. -/
def quotedCode (quote : Char) (n : Nat) : List Char :=
  if isSurrogate n then '\\' :: 'u' :: (hex 4 n).toList else quotedChar quote (Char.ofNat n)

/-- A text of any codes in quotes. -/
def quotedCodes (codes : Codes) : String :=
  let quote := quoteFor (codes.map charOf)
  String.ofList (quote :: codes.flatMap (quotedCode quote) ++ [quote])

/-- One byte inside quotes; bytes beyond ASCII are escaped. -/
def quotedByte (quote : Char) (b : UInt8) : List Char :=
  if b < 128 then quotedChar quote (Char.ofNat b.toNat)
  else '\\' :: 'x' :: (hex 2 b.toNat).toList

/-- Bytes in quotes, marked by a `b`. -/
def quotedBytes (bs : List UInt8) : String :=
  let quote := quoteFor (bs.map fun b => Char.ofNat b.toNat)
  String.ofList ('b' :: quote :: bs.flatMap (quotedByte quote) ++ [quote])

/-- The header fields of a file: a mapping of their names, or a list of pairs of bytes if a name
occurs more than once. -/
def headersText (headers : List (String × String)) : String :=
  let names := headers.map Prod.fst
  if names.eraseDups.length = names.length then
    "Headers(\x7b" ++ String.intercalate ", "
      (headers.map fun h => quoted h.1 ++ ": " ++ quoted h.2) ++ "\x7d)"
  else
    let bytes (s : String) : String := quotedBytes (s.toList.map fun c => UInt8.ofNat c.toNat)
    "Headers(raw=[" ++ String.intercalate ", "
      (headers.map fun h => "(" ++ bytes h.1 ++ ", " ++ bytes h.2 ++ ")") ++ "])"

/-- Text of a file in messages. -/
def uploadText (u : Upload) : String :=
  "UploadFile(filename=" ++ quotedCodes u.filename ++ ", size=" ++ u.data.length.repr ++
    ", headers=" ++ headersText u.headers ++ ")"

/-- Text of a type in messages. -/
def kindText (k : Kind) : String := "ParamType." ++ k.name.map Char.toUpper

mutual

/-- A value as messages show it. -/
def literal : Value → Except Fault String
  | .null => .ok "None"
  | .bool b => .ok (if b then "True" else "False")
  | .int n => integerText n
  | .float x => .ok x.text
  | .string s => .ok (quoted s)
  | .illFormed codes => .ok (quotedCodes codes)
  | .bytes bs => .ok (quotedBytes bs)
  | .list items => do
      let parts ← literals items
      .ok ("[" ++ String.intercalate ", " parts ++ "]")
  | .tuple items => do
      let parts ← literals items
      match parts with
      | [part] => .ok ("(" ++ part ++ ",)")
      | _ => .ok ("(" ++ String.intercalate ", " parts ++ ")")
  | .map entries => do
      let parts ← entryLiterals entries
      .ok ("\x7b" ++ String.intercalate ", " parts ++ "\x7d")
  | .kind k => .ok ("<" ++ kindText k ++ ": '" ++ k.name ++ "'>")
  | .hook h => .ok ("<function " ++ h.name ++ ">")
  | .upload u => .ok (uploadText u)
  | .definition d => do
      let parts ← fieldLiterals d
      .ok ("ParameterDefinition(" ++ String.intercalate ", " parts ++ ")")

/-- The items of a list as messages show them. -/
def literals : List Value → Except Fault (List String)
  | [] => .ok []
  | v :: vs => do
      let s ← literal v
      let rest ← literals vs
      .ok (s :: rest)

/-- The entries of a map as messages show them. -/
def entryLiterals : List (Value × Value) → Except Fault (List String)
  | [] => .ok []
  | (k, v) :: rest => do
      let key ← literal k
      let value ← literal v
      let parts ← entryLiterals rest
      .ok ((key ++ ": " ++ value) :: parts)

/-- The fields of a declaration as messages show them. -/
def fieldLiterals : ParamFields Value → Except Fault (List String)
  | ⟨type, array, default, required, min, max, description, validate, error, success⟩ => do
      let a ← literal type
      let b ← literal array
      let c ← literal default
      let d ← literal required
      let e ← literal min
      let f ← literal max
      let g ← literal description
      let h ← literal validate
      let i ← literal error
      let j ← literal success
      .ok ["type=" ++ a, "array=" ++ b, "default=" ++ c, "required=" ++ d, "min=" ++ e,
        "max=" ++ f, "description=" ++ g, "validate=" ++ h, "error=" ++ i, "success=" ++ j]

end

/-- Text of a value. Surrogates are replaced. -/
def text : Value → Except Fault String
  | .string s => .ok s
  | .illFormed codes => .ok (lossy codes)
  | .kind k => .ok (kindText k)
  | v => v.literal

/-- The codes of the text of a value, surrogates and all. -/
def textCodes : Value → Except Fault Codes
  | .illFormed codes => .ok codes
  | v => v.text.map codes

end ParamGate.Value
