import ParamGate.Text.Surrogate
import ParamGate.Text.Trim

/-!
# The compact form of a declaration

A compact declaration is a type name, optional brackets for an array, and an optional default in
parentheses, with blanks between the parts:

    name [] (default)

The name is a run of word characters or an asterisk. The default is any text without a closing
parenthesis and may be empty. A surrogate is no blank and no word character, so it can stand in the
default only.
-/

namespace ParamGate

open Text

/-- Parts of a compact declaration. -/
structure CompactForm where
  name : Codes
  array : Bool
  default : Option Codes
deriving DecidableEq

namespace CompactForm

/-- Codes of blanks. -/
def isBlankCode (n : Nat) : Bool := isBlank (charOf n)

/-- Codes of word characters. -/
def isWordCode (n : Nat) : Bool := isWord (charOf n)

/-! Codes of the punctuation. -/

@[match_pattern] abbrev asterisk : Nat := 42

@[match_pattern] abbrev openBracket : Nat := 91

@[match_pattern] abbrev closeBracket : Nat := 93

@[match_pattern] abbrev openParenthesis : Nat := 40

@[match_pattern] abbrev closeParenthesis : Nat := 41

/-- The type name at the front. -/
def takeName? : Codes → Option (Codes × Codes)
  | asterisk :: rest => some ([asterisk], rest)
  | ns =>
      match ns.takeWhile isWordCode with
      | [] => none
      | name => some (name, ns.dropWhile isWordCode)

/-- Whether brackets stand at the front. -/
def takeBrackets : Codes → Bool × Codes
  | openBracket :: closeBracket :: rest => (true, rest)
  | ns => (false, ns)

/-- The default at the front; an opening parenthesis needs a closing one. -/
def takeDefault? : Codes → Option (Option Codes × Codes)
  | openParenthesis :: ns =>
      match cut closeParenthesis ns with
      | (default, some rest) => some (some default, rest)
      | (_, none) => none
  | ns => some (none, ns)

/-- The parts of a compact declaration. -/
def read? (ns : Codes) : Option CompactForm := do
  let (name, rest) ← takeName? (ns.dropWhile isBlankCode)
  let (array, rest) := takeBrackets (rest.dropWhile isBlankCode)
  let (default, rest) ← takeDefault? (rest.dropWhile isBlankCode)
  if (rest.dropWhile isBlankCode).isEmpty then some ⟨name, array, default⟩ else none

end CompactForm

end ParamGate
