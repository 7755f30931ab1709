import ParamGate.Http.Header
import ParamGate.Settings

/-!
# The requested version

A client may ask for a version of an endpoint in the header that the settings name. The name is
looked up in lower case and must be writable in Latin-1. A blank version is none.
-/

namespace ParamGate.Route

open Text

/-- A character as messages about characters show it. -/
def shownCode (c : Char) : String :=
  if c.toNat < 0x100 then "\\x" ++ hex 2 c.toNat
  else if c.toNat < 0x10000 then "\\u" ++ hex 4 c.toNat
  else "\\U" ++ hex 8 c.toNat

/-- What keeps a text from being written in Latin-1: the first run of characters beyond it. -/
def latin1Problem? (s : String) : Option String :=
  let isWide (c : Char) : Bool := 256 ≤ c.toNat
  let before := s.toList.takeWhile fun c => !isWide c
  match (s.toList.dropWhile fun c => !isWide c).takeWhile isWide with
  | [] => none
  | [c] =>
      some ("'latin-1' codec can't encode character '" ++ shownCode c ++ "' in position " ++
        before.length.repr ++ ": ordinal not in range(256)")
  | run =>
      some ("'latin-1' codec can't encode characters in position " ++ before.length.repr ++ "-" ++
        (before.length + run.length - 1).repr ++ ": ordinal not in range(256)")

/-- The version that the headers ask for. -/
def requestedVersion (s : Settings) (hs : Http.Headers) : Except Fault (Option String) :=
  let name := lower s.versionHeader
  match latin1Problem? name with
  | some problem => .error (.headerCharacters problem)
  | none =>
      match hs.first? name with
      | none => .ok none
      | some value =>
          let version := trim value
          .ok (if version = "" then none else some version)

end ParamGate.Route
