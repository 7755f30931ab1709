import ParamGate.Json.Token
import ParamGate.Value.Key

/-!
# Reading JSON

A pushdown machine over tokens. The stack holds the containers that are open, each with what it
has so far; the need says which tokens may come next, so that a comma before a closing bracket
is refused. Not too many containers may be open at once. A name that occurs twice in one map keeps
the position of its first occurrence and the value of its last.
-/

namespace ParamGate.Json

/-- An open container: the items so far in reverse order, or the entries so far and the name
that waits for its value. -/
inductive Frame where
  | items (seen : List Value)
  | entries (seen : Table Value) (name : Value)

/-- What may come next. -/
inductive Need where
  /-- A value. -/
  | value
  /-- A value or the end of the list just opened. -/
  | firstItem
  /-- A name in the map with these entries. -/
  | name (seen : Table Value)
  /-- A name or the end of the map just opened. -/
  | firstName
  /-- The colon after a name. -/
  | colon (seen : Table Value) (name : Value)
  /-- After a value: a comma, the end of its container, or the end of the text. -/
  | after (v : Value)

/-- State of the reader. -/
structure ReadState where
  stack : List Frame
  need : Need

/-- Most containers that may be open at once. -/
def maxDepth : Nat := 960

/-- A value starts with the token. -/
def startValue (stack : List Frame) : Token → Option ReadState
  | .openMap => if stack.length < maxDepth then some ⟨stack, .firstName⟩ else none
  | .openList =>
      if stack.length < maxDepth then some ⟨.items [] :: stack, .firstItem⟩ else none
  | .text v => some ⟨stack, .after v⟩
  | .scalar v => some ⟨stack, .after v⟩
  | _ => none

/-- One token. -/
def readStep : ReadState → Token → Option ReadState
  | ⟨stack, .value⟩, t => startValue stack t
  | ⟨.items seen :: stack, .firstItem⟩, .closeList =>
      some ⟨stack, .after (.list seen.reverse)⟩
  | ⟨stack, .firstItem⟩, t => startValue stack t
  | ⟨stack, .firstName⟩, .closeMap => some ⟨stack, .after (.map [])⟩
  | ⟨stack, .firstName⟩, .text name => some ⟨stack, .colon [] name⟩
  | ⟨stack, .name seen⟩, .text name => some ⟨stack, .colon seen name⟩
  | ⟨stack, .colon seen name⟩, .colon => some ⟨.entries seen name :: stack, .value⟩
  | ⟨.items seen :: stack, .after v⟩, .comma => some ⟨.items (v :: seen) :: stack, .value⟩
  | ⟨.items seen :: stack, .after v⟩, .closeList =>
      some ⟨stack, .after (.list (v :: seen).reverse)⟩
  | ⟨.entries seen name :: stack, .after v⟩, .comma => some ⟨stack, .name (seen.put name v)⟩
  | ⟨.entries seen name :: stack, .after v⟩, .closeMap =>
      some ⟨stack, .after (.map (seen.put name v))⟩
  | _, _ => none

/-- The value of the tokens, read from a state. -/
def readFrom (state : ReadState) : List Token → Option Value
  | [] =>
      match state with
      | ⟨[], .after v⟩ => some v
      | _ => none
  | t :: ts => do
      let next ← readStep state t
      readFrom next ts

/-- The value of the codes of a JSON text. -/
def read? (codes : List Nat) : Option Value := do
  let tokens ← lex codes
  readFrom ⟨[], .value⟩ tokens

end ParamGate.Json
