import ParamGate.Proofs.Http.Sources
import ParamGate.Proofs.Json.Reading
import ParamGate.Proofs.Text.Utf8

/-!
# Bodies in JSON

A body that is a JSON object gives the members of the object by name, with the value of the last
member of each name. That holds of every object that the grammar derives, unless an integer in it
has more digits than are read: such an integer makes the whole body unreadable, and no member is
left. `jsonBody_members` says both, and `overlong_empties_body` has an object with a member that
would be read, if it did not stand beside a long integer.
-/

namespace ParamGate.Json

open Text

/-! ## Members by name -/

/-- The table has the members: every name once, at the place of its first occurrence, with the value
of its last member. -/
structure HoldsMembers (members : List (List Piece × Tree)) (t : Table Value) : Prop where
  keys : t.keys = (members.map fun m => textCodes m.1).eraseDups.map Value.ofCodes
  distinct : t.Distinct
  last : ∀ before m after, members = before ++ m :: after →
    (∀ later ∈ after, textCodes later.1 ≠ textCodes m.1) →
    t.get? (textValue m.1) = some m.2.value

theorem memberValues_eq (members : List (List Piece × Tree)) :
    Tree.memberValues members = members.map fun m => (textValue m.1, m.2.value) := by
  induction members with
  | nil => rfl
  | cons m members ih => rw [Tree.memberValues, ih, List.map_cons]

theorem ofList_memberValues (members : List (List Piece × Tree)) :
    Table.ofList (Tree.memberValues members) =
      Table.ofNamed Value.ofCodes (fun m => textCodes m.1) (fun m => m.2.value) members := by
  rw [memberValues_eq]
  rfl

theorem holdsMembers_ofList (members : List (List Piece × Tree)) :
    HoldsMembers members (Table.ofList (Tree.memberValues members)) := by
  have htext := Http.key_ofCodes_injective
  rw [ofList_memberValues]
  refine ⟨Table.keys_ofNamed htext _ members, Table.distinct_ofNamed _ _, ?_⟩
  rintro before m after rfl hlast
  exact Table.get?_ofNamed htext _ hlast

/-! ## The beginning of an object -/

theorem isPlainAscii_of_blank {b : List Char} (hb : IsBlank b) : ∀ c ∈ b, IsPlainAscii c := by
  intro c hc
  rcases hb c hc with rfl | rfl | rfl | rfl
  · exact ⟨by decide, by decide⟩
  · exact ⟨by decide, by decide⟩
  · exact ⟨by decide, by decide⟩
  · exact ⟨by decide, by decide⟩

theorem spellsMember_quote {m : List Piece × Tree} {cs : List Char} (h : SpellsMember m cs) :
    ∃ b rest, IsBlank b ∧ cs = b ++ '"' :: rest := by
  match h with
  | @SpellsMember.mk name t b ns b' ws hb _ _ _ =>
      refine ⟨b, ns ++ '"' :: (b' ++ ':' :: ws), hb, ?_⟩
      simp only [List.append_assoc, List.cons_append]

theorem spellsMembers_quote {members : List (List Piece × Tree)} {cs : List Char}
    (h : SpellsMembers members cs) : ∃ b rest, IsBlank b ∧ cs = b ++ '"' :: rest := by
  cases h with
  | last hm => exact spellsMember_quote hm
  | cons hm _ =>
      obtain ⟨b, rest, hb, rfl⟩ := spellsMember_quote hm
      exact ⟨b, _, hb, by rw [List.append_assoc, List.cons_append]⟩

/-- The first brace of an object and the mark that follows it are of ASCII, and so is all that
stands before them. -/
theorem padded_object_begins {members : List (List Piece × Tree)} {cs : List Char}
    (h : Padded (.object members) cs) :
    ∃ front rest, cs = front ++ rest ∧ (∀ c ∈ front, IsPlainAscii c) ∧ 2 ≤ front.length := by
  obtain @⟨_, b, ws, b', hb, hobject, -⟩ := h
  have htwo : ∀ (blanks : List Char) (mark : Char), 2 ≤ (b ++ '{' :: (blanks ++ [mark])).length := by
    intro blanks mark
    simp only [List.length_append, List.length_cons, List.length_nil]
    omega
  have hfront : ∀ (blanks : List Char) (mark : Char), IsBlank blanks → IsPlainAscii mark →
      ∀ c ∈ b ++ '{' :: (blanks ++ [mark]), IsPlainAscii c := by
    intro blanks mark hblanks hmark c hc
    simp only [List.mem_append, List.mem_cons, List.not_mem_nil, or_false] at hc
    rcases hc with hc | rfl | hc | rfl
    · exact isPlainAscii_of_blank hb c hc
    · exact ⟨by decide, by decide⟩
    · exact isPlainAscii_of_blank hblanks c hc
    · exact hmark
  cases hobject with
  | emptyObject hblanks =>
      exact ⟨_, b', rfl, hfront _ '}' hblanks ⟨by decide, by decide⟩, htwo _ _⟩
  | object hmembers =>
      obtain ⟨blanks, rest, hblanks, rfl⟩ := spellsMembers_quote hmembers
      refine ⟨_, rest ++ ['}'] ++ b', ?_, hfront blanks '"' hblanks ⟨by decide, by decide⟩, htwo _ _⟩
      simp only [List.append_assoc, List.cons_append, List.nil_append]

/-! ## Phrases without blanks -/

theorem Padded.bare {t : Tree} {cs : List Char} (h : Spells t cs) : Padded t cs := by
  have hpadded := @Padded.mk t [] cs [] nofun h nofun
  rwa [List.nil_append, List.append_nil] at hpadded

theorem SpellsMember.bare {name : List Piece} {t : Tree} {ns cs : List Char}
    (hname : SpellsPieces name ns) (h : Spells t cs) :
    SpellsMember (name, t) ('"' :: ns ++ '"' :: ':' :: cs) := by
  have hmember := @SpellsMember.mk name t [] ns [] cs nofun hname nofun (.bare h)
  simpa only [List.nil_append, List.append_assoc, List.cons_append] using hmember

end ParamGate.Json

namespace ParamGate.Http

open Text Json

/-! ## The source of a body -/

section Source

variable {members : List (List Piece × Tree)} {text : String}

theorem read?_encode (htext : Padded (.object members) text.toList)
    (hdepth : (Tree.object members).depth ≤ maxDepth) :
    StopsIf (Tree.object members).Overlong ((decodeDetected? (encode text)).bind read?)
      (some (.map (Table.ofList (Tree.memberValues members)))) := by
  obtain ⟨front, rest, htoList, hascii, htwo⟩ := padded_object_begins htext
  have hdetected : decodeDetected? (encode text) = some (codesOf text.toList) := by
    match front, htwo with
    | c :: d :: front, _ =>
        rw [encode_eq, htoList]
        exact decodeDetected?_utf8Bytes (hascii c (by simp)) (hascii d (by simp)) _
  rw [hdetected, Option.bind_some]
  exact read?_of_padded htext hdepth

theorem jsonSource_encode (htext : Padded (.object members) text.toList)
    (hdepth : (Tree.object members).depth ≤ maxDepth) (hread : ¬ (Tree.object members).Overlong) :
    jsonSource (encode text) = Table.ofList (Tree.memberValues members) := by
  rw [jsonSource, (read?_encode htext hdepth).goes hread]

theorem jsonSource_encode_of_overlong (htext : Padded (.object members) text.toList)
    (hdepth : (Tree.object members).depth ≤ maxDepth) (hlong : (Tree.object members).Overlong) :
    jsonSource (encode text) = [] := by
  rw [jsonSource, (read?_encode htext hdepth).stops hlong]

theorem bodySource_of_json {r : Request} (h : mediaType r.contentType = "application/json") :
    bodySource r = jsonSource r.body := by
  rw [bodySource]
  rw [Request.contentType] at h
  rw [h]
  rfl

/-- A body in JSON that is an object gives its members, if no integer in it has too many digits, and
nothing otherwise. -/
theorem jsonBody_members (pathParams : Table Value) {r : Request}
    (htype : mediaType r.contentType = "application/json") (hbody : r.body = encode text)
    (htext : Padded (.object members) text.toList)
    (hdepth : (Tree.object members).depth ≤ maxDepth) :
    ∃ body, Table.get? (sources pathParams r) (.string "body") = some (.map body) ∧
      ((∀ m ∈ members, ¬ m.2.Overlong) → HoldsMembers members body) ∧
      ((∃ m ∈ members, m.2.Overlong) → body = []) := by
  refine ⟨bodySource r, rfl, ?_, ?_⟩
  · intro hread
    have hobject : ¬ (Tree.object members).Overlong := by
      rw [Tree.overlong_object]
      rintro ⟨m, hm, hlong⟩
      exact hread m hm hlong
    rw [bodySource_of_json htype, hbody, jsonSource_encode htext hdepth hobject]
    exact holdsMembers_ofList members
  · intro hlong
    rw [bodySource_of_json htype, hbody]
    exact jsonSource_encode_of_overlong htext hdepth (Tree.overlong_object.2 hlong)

end Source

/-- A request with a body in JSON. -/
def jsonRequest (text : String) : Request where
  method := "POST"
  path := "/items"
  query := []
  headers := [("content-type", "application/json")]
  body := encode text

theorem mediaType_jsonRequest (text : String) :
    mediaType (jsonRequest text).contentType = "application/json" := by
  have htype : (jsonRequest text).contentType = "application/json" := rfl
  rw [htype]
  exact Text.lower_trim_ascii rfl

/-- A character that is written as it is. -/
def plain (c : Char) : Piece := .plain c.toNat

theorem spellsPieces_plain {c : Char} (h : 0x20 ≤ c.toNat ∧ c ≠ '"' ∧ c ≠ '\\') :
    SpellsPieces [plain c] [c] :=
  .cons (.plain h.1 h.2.1 h.2.2) .nil

/-- An object in which a name occurs twice. -/
def repeatedMembers : List (List Piece × Tree) :=
  [([plain 'a'], .array [.bool true]), ([plain 'b'], .null), ([plain 'a'], .text [plain 'x'])]

theorem padded_repeatedMembers :
    Padded (.object repeatedMembers) "\x7b\"a\":[true],\"b\":null,\"a\":\"x\"\x7d".toList := by
  have ha : SpellsPieces [plain 'a'] ['a'] := spellsPieces_plain (by decide)
  have hb : SpellsPieces [plain 'b'] ['b'] := spellsPieces_plain (by decide)
  have hx : SpellsPieces [plain 'x'] ['x'] := spellsPieces_plain (by decide)
  exact .bare (.object (.cons (.bare ha (.array (.last (.bare .true))))
    (.cons (.bare hb .null) (.last (.bare ha (.text hx))))))

/-- The last of two members counts. -/
theorem jsonBody_members_repeated :
    mediaType (jsonRequest "\x7b\"a\":[true],\"b\":null,\"a\":\"x\"\x7d").contentType =
      "application/json" ∧
    Padded (.object repeatedMembers) "\x7b\"a\":[true],\"b\":null,\"a\":\"x\"\x7d".toList ∧
    (Tree.object repeatedMembers).depth ≤ maxDepth ∧
    ∃ body, Table.get? (sources [] (jsonRequest "\x7b\"a\":[true],\"b\":null,\"a\":\"x\"\x7d"))
        (.string "body") = some (.map body) ∧
      Table.keys body = [.string "a", .string "b"] ∧
      Table.get? body (.string "a") = some (.string "x") := by
  have hdepth : (Tree.object repeatedMembers).depth ≤ maxDepth := by decide
  obtain ⟨body, hbody, hholds, -⟩ :=
    jsonBody_members [] (mediaType_jsonRequest _) rfl padded_repeatedMembers hdepth
  have hread : ∀ m ∈ repeatedMembers, ¬ m.2.Overlong := by
    intro m hm
    simp only [repeatedMembers, List.mem_cons, List.not_mem_nil, or_false] at hm
    rcases hm with rfl | rfl | rfl
    · rw [Tree.overlong_array]
      rintro ⟨t, ht, hlong⟩
      obtain rfl := List.mem_singleton.1 ht
      cases hlong
    · exact nofun
    · exact nofun
  have hmembers := hholds hread
  refine ⟨mediaType_jsonRequest _, padded_repeatedMembers, hdepth, body, hbody, hmembers.keys, ?_⟩
  exact hmembers.last (repeatedMembers.take 2) ([plain 'a'], .text [plain 'x']) [] rfl nofun

/-- A power of ten. -/
def powerNumeral (zeros : Nat) : Numeral where
  negative := false
  whole := 1 :: List.replicate zeros 0
  fraction := none
  exponent := none
  whole_ne := nofun
  whole_short := nofun
  fraction_ne := nofun

/-- An object in which an integer stands beside a text. -/
def membersBeside (n : Numeral) : List (List Piece × Tree) :=
  [([plain 'a'], .text [plain 'x']), ([plain 'n'], .number n)]

def textBeside (n : Numeral) : String :=
  String.ofList ('{' :: ("\"a\":\"x\",\"n\":".toList ++ n.chars) ++ ['}'])

theorem toList_textBeside (n : Numeral) : (textBeside n).toList =
    '{' :: ("\"a\":\"x\",\"n\":".toList ++ n.chars) ++ ['}'] :=
  String.toList_ofList

theorem padded_membersBeside (n : Numeral) :
    Padded (.object (membersBeside n)) (textBeside n).toList := by
  have ha : SpellsPieces [plain 'a'] ['a'] := spellsPieces_plain (by decide)
  have hn : SpellsPieces [plain 'n'] ['n'] := spellsPieces_plain (by decide)
  have hx : SpellsPieces [plain 'x'] ['x'] := spellsPieces_plain (by decide)
  have htext : SpellsMember ([plain 'a'], .text [plain 'x']) ['"', 'a', '"', ':', '"', 'x', '"'] :=
    .bare ha (.text hx)
  have hnumber : SpellsMember ([plain 'n'], .number n) ('"' :: 'n' :: '"' :: ':' :: n.chars) :=
    .bare hn (.number n)
  have hmembers : SpellsMembers (membersBeside n) ("\"a\":\"x\",\"n\":".toList ++ n.chars) :=
    .cons htext (.last hnumber)
  rw [toList_textBeside]
  exact .bare (.object hmembers)

theorem overlong_powerNumeral : (powerNumeral maxIntegerDigits).Overlong := by
  refine ⟨⟨rfl, rfl⟩, ?_⟩
  rw [powerNumeral, List.length_cons, List.length_replicate]
  exact Nat.lt_succ_self maxIntegerDigits

/-- A text that can be read is lost together with the long integer beside it. -/
theorem overlong_empties_body :
    Padded (.object (membersBeside (powerNumeral maxIntegerDigits)))
      (textBeside (powerNumeral maxIntegerDigits)).toList ∧
    (Tree.object (membersBeside (powerNumeral maxIntegerDigits))).depth ≤ maxDepth ∧
    (membersBeside (powerNumeral maxIntegerDigits)).head? =
      some ([plain 'a'], .text [plain 'x']) ∧
    ¬ (Tree.text [plain 'x']).Overlong ∧
    Table.get? (sources [] (jsonRequest (textBeside (powerNumeral maxIntegerDigits))))
      (.string "body") = some (.map []) := by
  have hdepth : ∀ n, (Tree.object (membersBeside n)).depth ≤ maxDepth := by
    intro n
    have hone : (Tree.object (membersBeside n)).depth = 1 := rfl
    rw [hone]
    decide
  have hlong : (Tree.object (membersBeside (powerNumeral maxIntegerDigits))).Overlong := by
    rw [Tree.overlong_object]
    exact ⟨([plain 'n'], .number (powerNumeral maxIntegerDigits)), by simp [membersBeside],
      .number overlong_powerNumeral⟩
  have hempty : bodySource (jsonRequest (textBeside (powerNumeral maxIntegerDigits))) = [] := by
    rw [bodySource_of_json (mediaType_jsonRequest _)]
    exact jsonSource_encode_of_overlong (padded_membersBeside _) (hdepth _) hlong
  refine ⟨padded_membersBeside _, hdepth _, rfl, nofun, ?_⟩
  rw [← hempty]
  rfl

end ParamGate.Http
