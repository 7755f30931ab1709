import ParamGate.Value.Literal

/-!
# Findings about values

A finding about a field shows the value that was given there. A long text is shortened to its first
25 and its last 24 bytes, at the borders of characters.
-/

namespace ParamGate

/-- The characters at the front that take at most so many bytes. -/
def frontOf (bytes : Nat) : List Char → List Char
  | [] => []
  | c :: cs => if c.utf8Size ≤ bytes then c :: frontOf (bytes - c.utf8Size) cs else []

/-- Most bytes of a text that is shown as a whole. -/
def maxShownBytes : Nat := 50

/-- A text as findings show it. -/
def shortened (s : String) : String :=
  if s.utf8ByteSize ≤ maxShownBytes then s
  else
    String.ofList (frontOf 25 s.toList ++ ['.', '.', '.'] ++
      (frontOf 24 s.toList.reverse).reverse)

/-- A value as findings show it. -/
def Value.shown (v : Value) : String :=
  match v.literal with
  | .ok s => shortened s
  | .error _ => "<unprintable " ++ v.typeName ++ " object>"

/-- A finding about the value at a place. -/
def FieldFinding.ofValue (place : List String) (mistake : FieldMistake) (v : Value) :
    FieldFinding := ⟨place, mistake, v.shown, v.typeName⟩

end ParamGate
