import ParamGate.Binary64.Shortest
import ParamGate.Fault
import ParamGate.Text.Trim
import ParamGate.Value.Key

/-!
# Path templates

A template is a path in which names in braces stand for parameters, each with an optional
converter after a colon. A path matches if it consists of the literal segments with a text for each
parameter that its converter admits; earlier parameters take as much as they can. A line break at
the very end of a path is not looked at.
-/

namespace ParamGate.Route

open Text

/-- Which texts a parameter of a path admits, and what value they give. -/
inductive Converter where
  /-- Any text without a slash, not empty. -/
  | segment
  /-- Any text within a line. -/
  | path
  | integer
  /-- Digits with an optional fraction. -/
  | decimal
  /-- Thirty-two hexadecimal digits in five groups. -/
  | uuid
deriving DecidableEq

/-- Converters by name; a parameter without one is a segment. -/
def Converter.ofName? : String → Option Converter
  | "str" => some .segment
  | "path" => some .path
  | "int" => some .integer
  | "float" => some .decimal
  | "uuid" => some .uuid
  | _ => none

/-- Part of a template. -/
inductive Segment where
  | literal (cs : List Char)
  | parameter (name : String) (converter : Converter)

/-- A parsed template. -/
abbrev Template := List Segment

/-! ## Parsing -/

/-- First characters of names. -/
def isNameStart (c : Char) : Bool :=
  ('a' ≤ c && c ≤ 'z') || ('A' ≤ c && c ≤ 'Z') || c == '_'

/-- Characters of names. -/
def isNameChar (c : Char) : Bool := isNameStart c || ('0' ≤ c && c ≤ '9')

/-- A name at the front and the rest. -/
def takeName? : List Char → Option (List Char × List Char)
  | [] => none
  | c :: cs =>
      if isNameStart c then some (c :: cs.takeWhile isNameChar, cs.dropWhile isNameChar) else none

/-- A parameter after its opening brace: its name, the name of its converter, and how many
characters both take with the closing brace. -/
def takeParameter? (cs : List Char) : Option (String × String × Nat) := do
  let (name, rest) ← takeName? cs
  match rest with
  | '}' :: _ => some (String.ofList name, "str", name.length + 1)
  | ':' :: rest =>
      let (converter, rest) ← takeName? rest
      match rest with
      | '}' :: _ =>
          some (String.ofList name, String.ofList converter, name.length + converter.length + 2)
      | _ => none
  | _ => none

/-- A literal in reverse order in front of segments. -/
def withLiteral (seen : List Char) (t : Template) : Template :=
  if seen.isEmpty then t else .literal seen.reverse :: t

/-- The segments of a template. `skip` characters belong to a parameter already taken, and `seen`
is the literal at hand in reverse order. -/
def parseFrom (skip : Nat) (seen : List Char) : List Char → Except Fault Template
  | [] => .ok (withLiteral seen [])
  | c :: cs =>
      match skip with
      | skip + 1 => parseFrom skip seen cs
      | 0 =>
          match if c = '{' then takeParameter? cs else none with
          | none => parseFrom 0 (c :: seen) cs
          | some (name, converter, length) =>
              match Converter.ofName? converter with
              | none => .error (.unknownConverter converter)
              | some k => do
                  let rest ← parseFrom length [] cs
                  .ok (withLiteral seen (.parameter name k :: rest))

/-- Names of the parameters of a template. -/
def Template.names (t : Template) : List String :=
  t.filterMap fun
    | .parameter name _ => some name
    | .literal _ => none

/-- The converter of the parameter of a name. -/
def Template.converter? (t : Template) (name : String) : Option Converter :=
  t.findSome? fun
    | .parameter n k => if n = name then some k else none
    | .literal _ => none

/-- The characters of a template without its converters. -/
def Template.shape (t : Template) : List Char :=
  t.flatMap fun
    | .literal cs => cs
    | .parameter name _ => '{' :: name.toList ++ ['}']

/-- The texts from an opening brace to the next closing brace of the same line, where `skip`
characters belong to a text already taken. -/
def bracedFrom (skip : Nat) : List Char → List (List Char)
  | [] => []
  | c :: cs =>
      match skip with
      | skip + 1 => bracedFrom skip cs
      | 0 =>
          match if c = '{' then cut '}' cs else ([], none) with
          | (_, none) => bracedFrom 0 cs
          | (braced, some _) =>
              if braced.contains '\n' then bracedFrom 0 cs
              else braced :: bracedFrom (braced.length + 1) cs

/-- Whether a handler takes an argument of a name from the path: the name must stand between braces,
and an opening brace before it that is left open takes the name away. -/
def Template.supplies (t : Template) (name : String) : Bool :=
  (bracedFrom 0 t.shape).contains name.toList

/-- The names that occur more than once, each once. -/
def repeatedNames : List String → List String
  | [] => []
  | name :: rest =>
      let others := repeatedNames rest
      if rest.contains name && !others.contains name then name :: others else others

/-- Texts in the order of their code points. -/
def sortNames (names : List String) : List String := names.mergeSort fun a b => decide (a ≤ b)

/-- The template without the port of a host: in a template that does not start with a slash, the
literal at the end counts up to its first colon. -/
def withoutPort (t : Template) : Template :=
  match t.getLast? with
  | some (.literal cs) => t.dropLast ++ [.literal (cs.takeWhile (· != ':'))]
  | _ => t

/-- The template that a path denotes. A parameter may be named once only. -/
def Template.parse (path : String) : Except Fault Template := do
  let t ← parseFrom 0 [] path.toList
  match repeatedNames t.names with
  | [] => .ok (if path.toList.head? = some '/' then t else withoutPort t)
  | names => .error (.repeatedPathNames (sortNames names) path)

/-! ## Matching -/

/-- Digits of the decimal system. -/
def isDecimalDigit (c : Char) : Bool := '0' ≤ c && c ≤ '9'

/-- The numbers from `n` down to `least`. -/
def downFrom (n least : Nat) : List Nat :=
  ((List.range (n + 1)).filter fun k => decide (least ≤ k)).reverse

/-- Lengths of the groups of an identifier. -/
def uuidGroups : List Nat := [8, 4, 4, 4, 12]

/-- Length of groups of hexadecimal digits at the front, with an optional hyphen between two. -/
def groupsLength? : List Nat → List Char → Option Nat
  | [], _ => some 0
  | n :: groups, cs =>
      let digits := cs.take n
      if digits.length = n ∧ digits.all fun c => (hexDigit? c).isSome then
        match groups, cs.drop n with
        | _ :: _, '-' :: rest => (groupsLength? groups rest).map (n + 1 + ·)
        | _, rest => (groupsLength? groups rest).map (n + ·)
      else none

/-- Lengths of the texts at the front that a converter admits, in the order they are tried. -/
def Converter.lengths (k : Converter) (cs : List Char) : List Nat :=
  match k with
  | .segment => downFrom (cs.takeWhile (· != '/')).length 1
  | .path => downFrom (cs.takeWhile (· != '\n')).length 0
  | .integer => downFrom (cs.takeWhile isDecimalDigit).length 1
  | .decimal =>
      (downFrom (cs.takeWhile isDecimalDigit).length 1).flatMap fun n =>
        match cs.drop n with
        | '.' :: rest =>
            (downFrom (rest.takeWhile isDecimalDigit).length 1).map (n + 1 + ·) ++ [n]
        | _ => [n]
  | .uuid => (groupsLength? uuidGroups cs).toList

/-- Texts of the parameters of a path. -/
def matchFrom : Template → List Char → Option (List (String × Converter × List Char))
  | [], cs => if cs = [] ∨ cs = ['\n'] then some [] else none
  | .literal l :: t, cs => if l.isPrefixOf cs then matchFrom t (cs.drop l.length) else none
  | .parameter name k :: t, cs =>
      (k.lengths cs).findSome? fun n =>
        (matchFrom t (cs.drop n)).map ((name, k, cs.take n) :: ·)

/-- The digits of an identifier in lower case with all hyphens. -/
def uuidText (cs : List Char) : String :=
  let digits := (cs.filter (· != '-')).map Char.toLower
  let group (start n : Nat) : List Char := (digits.drop start).take n
  String.ofList (group 0 8 ++ '-' :: group 8 4 ++ '-' :: group 12 4 ++ '-' :: group 16 4 ++
    '-' :: group 20 12)

/-- Most digits of an integer in a path. -/
def maxDigits : Nat := 4300

/-- The value of the text of a parameter. An integer may not have too many digits. -/
def Converter.value (k : Converter) (cs : List Char) : Except Fault Value :=
  match k with
  | .segment => .ok (.string (String.ofList cs))
  | .path => .ok (.string (String.ofList cs))
  | .integer =>
      let digits := (takeDigits asciiDigit? cs).1
      if digits.length ≤ maxDigits then .ok (.int (ofDigits digits))
      else .error (.tooManyDigits digits.length)
  | .decimal =>
      .ok (.float (((Binary64.takeDecimal? asciiDigit? false cs).map Prod.fst).getD (.nan 0)))
  | .uuid => .ok (.string (uuidText cs))

/-- The parameters of texts that matched. -/
def valuesOf : List (String × Converter × List Char) → Except Fault (Table Value)
  | [] => .ok []
  | (name, k, cs) :: rest => do
      let v ← k.value cs
      let others ← valuesOf rest
      .ok ((.string name, v) :: others)

/-- The parameters of a path if it matches a template. -/
def Template.matchPath? (t : Template) (path : String) : Except Fault (Option (Table Value)) :=
  match matchFrom t path.toList with
  | none => .ok none
  | some found => (valuesOf found).map some

end ParamGate.Route
