import ParamGate.Http.Option
import ParamGate.Text.Charset.Basic

/-!
# Multipart bodies

A multipart body is a sequence of parts, each with header lines, an empty line and data up to the
next delimiter: a line break, two hyphens and the boundary. The delimiter is followed by a line
break before another part and by two hyphens at the end. A body that breaks these rules has no
fields; a part that the body does not finish gives no field, but it counts for the limits. A part
that names a file is one, with its data as they are; other data, and all names, are texts in the
character set that the content type names.
-/

namespace ParamGate.Http

open Text

/-- Bytes of the line break. -/
def lineBreak : List UInt8 := [13, 10]

/-- Bytes of two hyphens. -/
def dashes : List UInt8 := [45, 45]

/-- What is left after bytes at the front. -/
def dropFront? (front bs : List UInt8) : Option (List UInt8) :=
  if front.isPrefixOf bs then some (bs.drop front.length) else none

/-- Bytes that may stand in the name of a header field. -/
def isFieldByte (b : UInt8) : Bool :=
  let n := b.toNat
  (48 ≤ n && n ≤ 57) || (65 ≤ n && n ≤ 90) || (94 ≤ n && n ≤ 122) || n == 124 || n == 126 ||
    n == 33 || (35 ≤ n && n ≤ 39) || n == 42 || n == 43 || n == 45 || n == 46

/-- The outcome of reading something that a body may break off. -/
inductive Reading (α : Type) where
  | done (a : α) (rest : List UInt8)
  /-- The body ends before it is complete. -/
  | unfinished
  /-- The body breaks a rule. -/
  | wrong

/-- The end of a line after a carriage return. -/
def afterReturn {α : Type} (a : α) : List UInt8 → Reading α
  | [] => .unfinished
  | b :: rest => if b = 10 then .done a rest else .wrong

/-- The value of a header field up to the end of its line; `seen` is in reverse order. -/
def takeFieldValue (seen : List UInt8) : List UInt8 → Reading (List UInt8)
  | [] => .unfinished
  | b :: rest =>
      if b = 13 then afterReturn seen.reverse rest else takeFieldValue (b :: seen) rest

/-- The name of a header field up to its colon; `seen` is in reverse order. -/
def takeFieldName (seen : List UInt8) : List UInt8 → Reading (List UInt8)
  | [] => .unfinished
  | b :: rest =>
      if b = 58 then (if seen.isEmpty then .wrong else .done seen.reverse rest)
      else if isFieldByte b then takeFieldName (b :: seen) rest
      else .wrong

/-- A header field, or none at the empty line that ends the fields. -/
def takeField (bs : List UInt8) : Reading (Option Pair) :=
  match bs with
  | 13 :: rest => afterReturn none rest
  | _ =>
      match takeFieldName [] bs with
      | .unfinished => .unfinished
      | .wrong => .wrong
      | .done name rest =>
          match takeFieldValue [] (rest.dropWhile (· == 32)) with
          | .unfinished => .unfinished
          | .wrong => .wrong
          | .done value rest =>
              .done (some (lower (String.ofList (decodeLatin1 name)),
                String.ofList (decodeLatin1 value))) rest

/-- The header fields of a part. Every field takes at least one byte, so `fuel` need not exceed the
number of bytes. -/
def takeFields (fuel : Nat) (bs : List UInt8) : Reading (List Pair) :=
  match fuel with
  | 0 => .unfinished
  | fuel + 1 =>
      match takeField bs with
      | .unfinished => .unfinished
      | .wrong => .wrong
      | .done none rest => .done [] rest
      | .done (some field) rest =>
          match takeFields fuel rest with
          | .done fields rest => .done (field :: fields) rest
          | .unfinished => .unfinished
          | .wrong => .wrong

/-- What follows the data of a part. -/
inductive PartEnd where
  /-- Another part, in the rest of the body. -/
  | another (rest : List UInt8)
  /-- The end of all parts. -/
  | last
  /-- Nothing: the body ends before a delimiter is complete. -/
  | missing

/-- Whether bytes are the front of the delimiter with its line break or its two hyphens. -/
def isDelimiterFront (delimiter bs : List UInt8) : Bool :=
  bs.isPrefixOf (delimiter ++ lineBreak) || bs.isPrefixOf (delimiter ++ dashes)

/-- The data of a part and what follows them; `seen` is in reverse order. A delimiter that neither a
line break nor two hyphens follow belongs to the data, and the next one is looked for behind what
was compared: then `skip` bytes are data without being looked at. -/
def takeData (delimiter : List UInt8) (skip : Nat) (seen : List UInt8) :
    List UInt8 → List UInt8 × PartEnd
  | [] => (seen.reverse, .missing)
  | b :: bs =>
      match skip with
      | skip + 1 => takeData delimiter skip (b :: seen) bs
      | 0 =>
          match dropFront? delimiter (b :: bs) with
          | none =>
              if isDelimiterFront delimiter (b :: bs) then (seen.reverse, .missing)
              else takeData delimiter 0 (b :: seen) bs
          | some after =>
              match dropFront? lineBreak after, dropFront? dashes after with
              | some rest, _ => (seen.reverse, .another rest)
              | none, some _ => (seen.reverse, .last)
              | none, none =>
                  if isDelimiterFront delimiter (b :: bs) then (seen.reverse, .missing)
                  else
                    let looked := match after with
                      | 13 :: _ => 1
                      | 45 :: _ => 1
                      | _ => 0
                    takeData delimiter (delimiter.length - 1 + looked) (b :: seen) bs

/-- A part: its header fields, its data, and whether the body finishes it. -/
structure Part where
  fields : List Pair
  data : List UInt8
  finished : Bool

/-- The parts of a body after a delimiter, or none if the body is wrong. Every part takes at least
one byte, so `fuel` need not exceed the number of bytes. -/
def takeParts (delimiter : List UInt8) (fuel : Nat) (bs : List UInt8) : Option (List Part) :=
  match fuel with
  | 0 => some []
  | fuel + 1 =>
      match takeFields bs.length bs with
      | .wrong => none
      | .unfinished => some []
      | .done fields rest =>
          match takeData delimiter 0 [] rest with
          | (data, .missing) => some [⟨fields, data, false⟩]
          | (data, .last) => some [⟨fields, data, true⟩]
          | (data, .another rest) =>
              (takeParts delimiter fuel rest).map (⟨fields, data, true⟩ :: ·)

/-- The parts of a body with a boundary, or none if the body has none or is wrong. Line breaks
before the first delimiter are skipped. -/
def parts? (boundary : List UInt8) (body : List UInt8) : Option (List Part) := do
  let opening := dashes ++ boundary
  let rest ← dropFront? opening (body.dropWhile fun b => b == 13 || b == 10)
  let first ← dropFront? lineBreak rest
  takeParts (lineBreak ++ opening) first.length first

/-- Most parts of a body that are fields, and most that are files. -/
def maxParts : Nat := 1000

/-- Most bytes of a field. -/
def maxFieldSize : Nat := 1048576

/-- Bytes of characters below 256. -/
def latin1Bytes (s : String) : List UInt8 := s.toList.map fun c => UInt8.ofNat c.toNat

/-- What a field of a form holds. -/
inductive Entry where
  | text (data : Codes)
  | file (u : Upload)

/-- The value of what a field holds. -/
def Entry.toValue : Entry → Value
  | .text data => .ofCodes data
  | .file u => .upload u

/-- What a part gives: an entry under a name, or nothing if the body does not finish it. -/
structure Item where
  isFile : Bool
  pair? : Option (Codes × Entry)

/-- The name of a file without the directories of a path that starts with a drive or with two
backslashes. -/
def baseName (s : String) : String :=
  let last := String.ofList (s.toList.reverse.takeWhile (· != '\\')).reverse
  match s.toList with
  | _ :: ':' :: '\\' :: _ => last
  | '\\' :: '\\' :: _ => last
  | _ => s

/-- What a part gives in a character set, or none if it is wrong: it has no name, a text of it is
refused, or a field is too long. `number` is the place of the part in the body. -/
def Part.item? (charset : String) (number : Nat) (p : Part) : Option Item := do
  let disposition ← option? p.fields "content-disposition"
  let (_, options) ← headerOptions? disposition
  let name ← (option? options "name").bind fun s => Charset.decodeNamed? charset (latin1Bytes s)
  match option? options "filename" with
  | some given =>
      let filename ← Charset.decodeNamed? charset (latin1Bytes (baseName given))
      let upload : Upload := ⟨number, filename, p.fields, p.data⟩
      some ⟨true, if p.finished then some (name, .file upload) else none⟩
  | none =>
      if maxFieldSize < p.data.length then none
      else if p.finished then
        (Charset.decodeNamed? charset p.data).map fun data => ⟨false, some (name, .text data)⟩
      else some ⟨false, none⟩

/-- What parts give, or none if one is wrong. `number` is the place of the first in the body. -/
def items? (charset : String) (number : Nat) : List Part → Option (List Item)
  | [] => some []
  | p :: rest => do
      let item ← p.item? charset number
      let others ← items? charset (number + 1) rest
      some (item :: others)

/-- The fields of a body of the given options. A body that is wrong or has too many parts has
none. -/
def multipartPairs (options : List Pair) (body : List UInt8) : List (Codes × Entry) :=
  let pairs := do
    let boundary ← option? options "boundary"
    let parts ← parts? (latin1Bytes boundary) body
    let items ← items? ((option? options "charset").getD "utf-8") 0 parts
    let files := items.countP Item.isFile
    if files ≤ maxParts ∧ items.length - files ≤ maxParts then some (items.filterMap Item.pair?)
    else none
  pairs.getD []

end ParamGate.Http
