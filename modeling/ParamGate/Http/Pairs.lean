import ParamGate.Text.Percent
import ParamGate.Text.Trim
import ParamGate.Value.Key

/-!
# Names with values

A query string or a form body gives a list of names with values, in which names may repeat.
`gather` makes a source of it: a name that occurs once has its value, a name that occurs more often
has the list of its values, and names stand in the order of their first occurrence.
-/

namespace ParamGate.Http

open Text

/-- A name and a value. -/
abbrev Pair := String × String

/-- The names of pairs in the order of their first occurrence. -/
def names {α β : Type} [DecidableEq α] (pairs : List (α × β)) : List α :=
  pairs.foldl (fun seen p => if seen.contains p.1 then seen else seen ++ [p.1]) []

/-- The values of a name in order. -/
def valuesOf {α β : Type} [DecidableEq α] (pairs : List (α × β)) (name : α) : List β :=
  pairs.filterMap fun p => if p.1 = name then some p.2 else none

/-- One value as it is, several as a list. -/
def gathered {β : Type} (toValue : β → Value) : List β → Value
  | [b] => toValue b
  | bs => .list (bs.map toValue)

/-- The source that pairs make of names and values. -/
def gather {α β : Type} [DecidableEq α] (toName : α → Value) (toValue : β → Value)
    (pairs : List (α × β)) : Table Value :=
  (names pairs).map fun name => (toName name, gathered toValue (valuesOf pairs name))

/-- Name and value of one part of a query: the value follows the first equals sign, and is empty
if there is none. -/
def queryPair (part : List Char) : Pair :=
  let (name, value) := cut '=' part
  (String.ofList (formDecode name), String.ofList (formDecode (value.getD [])))

/-- Pairs of a query string; empty parts are passed over. -/
def queryPairs (query : List UInt8) : List Pair :=
  ((splitOn '&' (decodeLatin1 query)).filter fun part => !part.isEmpty).map queryPair

/-- Separators before a part of a form. -/
def isSeparator (c : Char) : Bool := c == '&' || c == ';'

/-- Pairs of a form in its raw characters. A part ends at an ampersand, or at a semicolon if no
ampersand follows; a last part without an equals sign is no pair. -/
def rawFormPairs (cs : List Char) : List (List Char × List Char) :=
  let rest := cs.dropWhile isSeparator
  if rest.isEmpty then []
  else
    let sep := if rest.contains '&' then '&' else ';'
    match h : cut sep rest with
    | (part, some after) =>
        have : after.length < cs.length :=
          Nat.lt_of_lt_of_le (cut_length_lt h) (dropWhile_length_le isSeparator cs)
        let (name, value) := cut '=' part
        (name, value.getD []) :: rawFormPairs after
    | (part, none) =>
        match cut '=' part with
        | (name, some value) => [(name, value)]
        | (_, none) => []
termination_by cs.length

/-- Pairs of a form body. -/
def formPairs (body : List UInt8) : List Pair :=
  (rawFormPairs (decodeLatin1 body)).map fun p =>
    (String.ofList (formDecode p.1), String.ofList (formDecode p.2))

end ParamGate.Http
