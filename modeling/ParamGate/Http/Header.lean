import ParamGate.Http.Pairs
import ParamGate.Text.Case

/-!
# Headers and cookies

Header fields, and the cookies that one of them holds. Field names are looked up as they were sent;
the source of all headers has the names in lower case.
-/

namespace ParamGate.Http

open Text

/-- Header fields in the order they were sent. -/
abbrev Headers := List (String × String)

/-- Value of the first field whose name is spelled as given. -/
def Headers.first? (hs : Headers) (name : String) : Option String :=
  (hs.find? fun h => h.1 == name).map Prod.snd

/-- All fields by their name in lower case; the last field of a name gives the value. -/
def Headers.toTable (hs : Headers) : Table Value :=
  Table.ofList (hs.map fun h => (.string (lower h.1), .string h.2))

/-! ## Cookies -/

/-- The characters of a quoted cookie value: a backslash stands before a character or before the
three octal digits of its code. -/
def unescapeCookie : List Char → List Char
  | '\\' :: a :: b :: c :: rest =>
      if '0' ≤ a ∧ a ≤ '3' ∧ '0' ≤ b ∧ b ≤ '7' ∧ '0' ≤ c ∧ c ≤ '7' then
        Char.ofNat ((a.toNat - 48) * 64 + (b.toNat - 48) * 8 + (c.toNat - 48)) ::
          unescapeCookie rest
      else if a = '\n' then '\\' :: unescapeCookie (a :: b :: c :: rest)
      else a :: unescapeCookie (b :: c :: rest)
  | '\\' :: a :: rest =>
      if a = '\n' then '\\' :: unescapeCookie (a :: rest) else a :: unescapeCookie rest
  | c :: rest => c :: unescapeCookie rest
  | [] => []

/-- The value of a cookie without its quotes. -/
def unquoteCookie (cs : List Char) : List Char :=
  match cs, cs.getLast? with
  | '"' :: c :: rest, some '"' => unescapeCookie (c :: rest).dropLast
  | _, _ => cs

/-- Name and value of one part of a cookie header; a part without an equals sign is a value
without a name. -/
def cookiePair (part : List Char) : List Char × List Char :=
  match cut '=' part with
  | (name, some value) => (trimBy isBlank name, trimBy isBlank value)
  | (value, none) => ([], trimBy isBlank value)

/-- The cookies of a header value. -/
def cookies (header : String) : Table Value :=
  Table.ofList <|
    (((splitOn ';' header.toList).map cookiePair).filter
        fun p => !(p.1.isEmpty && p.2.isEmpty)).map
      fun p => (.string (String.ofList p.1), .string (String.ofList (unquoteCookie p.2)))

end ParamGate.Http
