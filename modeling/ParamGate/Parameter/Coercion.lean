import ParamGate.Parameter.Kind
import ParamGate.Text.Digits

/-!
# Coercion of raw values

A raw value becomes a value of the declared type, or null if it cannot be read as one. Numbers
are read from the longest prefix that denotes one, so trailing text is ignored. Lists and tuples
are coerced entry by entry; where an array is declared, a text is split at its commas.
-/

namespace ParamGate

open Text

/-- Spellings of truth. -/
def trueWords : List String := ["true", "t", "yes", "y", "1"]

/-- Spellings of falsehood. -/
def falseWords : List String := ["false", "f", "no", "n", "0"]

/-- The truth value that a text spells. -/
def readBoolean? (s : String) : Option Bool :=
  let word := lower (trim s)
  if trueWords.contains word then some true
  else if falseWords.contains word then some false
  else none

/-- The number at the front of a text, after blanks and a sign: the word for infinity, or a
decimal number in the digits of any script. -/
def readNumber? (cs : List Char) : Option Binary64 :=
  let (negative, rest) := takeSign (cs.dropWhile isBlank)
  if "Infinity".toList.isPrefixOf rest then some (.infinite negative)
  else (Binary64.takeDecimal? digitValue? negative rest).map Prod.fst

/-- Most digits of an integer that can be read. -/
def maxDigits : Nat := 4300

/-- The integer at the front of a text, after blanks and a sign, in the digits of any script and
with at most 4300 of them. -/
def readInteger? (cs : List Char) : Option Int :=
  let (negative, rest) := takeSign (cs.dropWhile isBlank)
  let ds := (takeDigits digitValue? rest).1
  if ds.isEmpty then none
  else if ds.length ≤ maxDigits then some (withSign negative (ofDigits ds))
  else none

/-- Coercion to a text or to any type: the empty text is absent. -/
def coerceText (v : Value) : Value :=
  match v with
  | .string "" => .null
  | _ => v

/-- Coercion to a truth value. -/
def coerceBoolean (v : Value) : Except Fault Value :=
  let word (s : String) : Value := (readBoolean? s).elim .null .bool
  match v with
  | .bool b => .ok (.bool b)
  | .int n => (Value.integerText n).map word
  | _ =>
      match v.asText? with
      | some s => .ok (word s)
      | none => .ok .null

/-- Coercion to a floating number. -/
def coerceNumber (v : Value) : Except Fault Value :=
  match v with
  | .null => .ok .null
  | .bool _ => .ok .null
  | .float x => .ok (if x.isNaN then .null else .float x)
  | .int n => .ok (.float (.ofInt n))
  | _ => v.text.map fun s => (readNumber? s.toList).elim .null .float

/-- Coercion to an integer. -/
def coerceInteger (v : Value) : Except Fault Value :=
  match v with
  | .null => .ok .null
  | .bool _ => .ok .null
  | .int n => .ok (.int n)
  | .float x => .ok (x.truncate?.elim .null .int)
  | _ => v.text.map fun s => (readInteger? s.toList).elim .null .int

/-- Coercion of one value as a whole. -/
def coerceScalar : Kind → Value → Except Fault Value
  | .any, v => .ok (coerceText v)
  | .string, v => .ok (coerceText v)
  | .boolean, v => coerceBoolean v
  | .number, v => coerceNumber v
  | .integer, v => coerceInteger v

/-- Coercion of several values, each as a whole. -/
def coerceParts (k : Kind) : List Value → Except Fault (List Value)
  | [] => .ok []
  | v :: vs => do
      let c ← coerceScalar k v
      let rest ← coerceParts k vs
      .ok (c :: rest)

/-- Code of the comma. -/
def commaCode : Nat := 44

/-- Texts between the commas of a text. -/
def commaParts (codes : List Nat) : List Value := (splitOn commaCode codes).map .ofCodes

/-- Coercion of a value that is no list and no tuple. -/
def coerceSingle (k : Kind) (array : Bool) (v : Value) : Except Fault Value :=
  if array && v.truthy then do
    let parts ← coerceParts k ((v.codes?.map commaParts).getD [v])
    .ok (.list parts)
  else coerceScalar k v

mutual

/-- Coercion of a raw value. The flag has a meaning only for values that are no lists. -/
def coerce (k : Kind) (array : Bool) : Value → Except Fault Value
  | .list items => do
      let entries ← coerceItems k items
      .ok (.list entries)
  | .tuple items => do
      let entries ← coerceItems k items
      .ok (.list entries)
  | v => coerceSingle k array v

/-- Coercion of the entries of a list. -/
def coerceItems (k : Kind) : List Value → Except Fault (List Value)
  | [] => .ok []
  | v :: vs => do
      let c ← coerce k false v
      let rest ← coerceItems k vs
      .ok (c :: rest)

end

/-- Coercion by a declared type and flag that may be any values. -/
def coerceAs (type array v : Value) : Except Fault Value := do
  let k ← Kind.parse type
  coerce k array.truthy v

end ParamGate
