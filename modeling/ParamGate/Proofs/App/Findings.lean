import Mathlib.Data.Finset.Card
import ParamGate.App.Failure
import ParamGate.Proofs.Text.Digits
import ParamGate.Proofs.Text.Trim
import ParamGate.Proofs.Value.Json
import ParamGate.Proofs.Value.Table

/-!
# What is reported of invalid arguments

In development the reply to a request with invalid arguments reports the findings by name: the place
of a finding without the part of the request that it starts with, its parts joined by dots. Places
with one name share one entry, which has the message of the last finding; so there are as many
entries as names, and as many as places only if no two places have the same name
(`App.invalidReply_reports`, `App.two_parts_share_entry`).
-/

namespace ParamGate.App

open Text

/-- A part of a place: a name, or an index into a list. -/
inductive Part where
  | name (s : String)
  | index (n : Int)
deriving DecidableEq

/-- What is wrong at a place of a request. -/
structure Finding where
  place : List Part
  message : String

namespace Part

def toValue : Part → Value
  | name s => .string s
  | index n => .int n

def text : Part → String
  | name s => s
  | index n => decimal n

/-- The part has a text: an index has no more digits than are written. -/
def Writable : Part → Prop
  | name _ => True
  | index n => n.natAbs < Value.digitBound

end Part

namespace Finding

/-- The texts of the parts of its place. -/
def texts (f : Finding) : List String := f.place.map Part.text

/-- The text of the name under which parts with these texts are reported. -/
def nameOf (texts : List String) : String := lossy (reportName (texts.map codes))

/-- The name under which it is reported. -/
def name (f : Finding) : String := nameOf f.texts

/-- All parts of its place have texts. -/
def Writable (f : Finding) : Prop := ∀ p ∈ f.place, p.Writable

/-- What is reported under its name. -/
def details (f : Finding) : Value := .map [(.string "error", .string f.message)]

/-- Its place is in a part of the request, and the rest of it are texts that the dots between them
keep apart. -/
structure Plain (f : Finding) (part : String) (rest : List String) : Prop where
  texts_eq : f.texts = part :: rest
  part : part ∈ requestParts
  rest_ne : rest ≠ []
  no_dot : ∀ s ∈ rest, '.' ∉ s.toList
  no_empty : ∀ s ∈ rest, s ≠ ""

end Finding

/-- A value that states a finding, with whatever other fields. Without a place it is about the
request as a whole, and without a message it has the general one. -/
structure States (v : Value) (f : Finding) : Prop where
  fields : ∃ entries, v = .map entries ∧
    (Table.get? entries (.string "loc")).getD (.tuple []) =
      .tuple (f.place.map Part.toValue) ∧
    (Table.get? entries (.string "msg")).getD (.string "Invalid value") = .string f.message

/-- The report of findings. -/
structure Reports (found : List Finding) (report : Table Value) : Prop where
  /-- There is one entry for each name, at the place of the first finding of that name. -/
  keys : report.keys = (found.map Finding.name).eraseDups.map .string
  size : report.length = (found.map Finding.name).toFinset.card
  /-- Nothing is reported that was not found. -/
  origin : ∀ e ∈ report, ∃ f ∈ found, e = (.string f.name, f.details)
  /-- The last finding of a name is the one that is reported. -/
  last : ∀ before f after, found = before ++ f :: after →
    (∀ later ∈ after, later.name ≠ f.name) → report.get? (.string f.name) = some f.details
  /-- Every place has an entry of its own only if no two places have the same name. -/
  complete : report.length = (found.map Finding.place).toFinset.card ↔
    ∀ f ∈ found, ∀ g ∈ found, f.name = g.name → f.place = g.place
  /-- In one part of a request, plain places with the same name read the same. -/
  apart : ∀ f ∈ found, ∀ g ∈ found, ∀ part rest rest', f.Plain part rest → g.Plain part rest' →
    f.name = g.name → f.texts = g.texts

/-! ## Names -/

/-- Parts without dots are found again between the dots. -/
theorem splitOn_dotted {texts : List String} (hne : texts ≠ [])
    (h : ∀ s ∈ texts, '.' ∉ s.toList) :
    (String.intercalate "." texts).toList.splitOn '.' = texts.map String.toList := by
  rw [String.toList_intercalate]
  apply List.splitOn_intercalate
  · intro part hpart
    obtain ⟨s, hs, rfl⟩ := List.mem_map.1 hpart
    exact h s hs
  · simpa using hne

theorem withoutRequestPart_cons {part : String} (h : part ∈ requestParts) (rest : List Codes) :
    withoutRequestPart (codes part :: rest) = rest := by
  rw [withoutRequestPart, if_pos (List.contains_iff_mem.2 (List.mem_map_of_mem h))]

/-- The parts of a place in text are left in text. -/
theorem exists_withoutRequestPart (texts : List String) :
    ∃ rest : List String, withoutRequestPart (texts.map codes) = rest.map codes := by
  cases texts with
  | nil => exact ⟨[], rfl⟩
  | cons part rest =>
      rw [List.map_cons, withoutRequestPart]
      split
      · exact ⟨rest, rfl⟩
      · exact ⟨part :: rest, rfl⟩

/-- Nothing is lost of the name of a place in text. -/
theorem codes_nameOf (texts : List String) :
    codes (Finding.nameOf texts) = reportName (texts.map codes) := by
  obtain ⟨rest, hrest⟩ := exists_withoutRequestPart texts
  have hname : ∃ s, reportName (texts.map codes) = codes s := by
    rw [reportName, hrest, ← codes_intercalate]
    split
    · exact ⟨"request", rfl⟩
    · exact ⟨String.intercalate "." rest, rfl⟩
  obtain ⟨s, hs⟩ := hname
  rw [Finding.nameOf, hs, lossy_codes]

namespace Finding

variable {f g : Finding} {part part' : String} {rest rest' : List String}

/-- A plain place is named by what stands behind the part of the request. -/
theorem Plain.name_eq (h : f.Plain part rest) : f.name = String.intercalate "." rest := by
  have hne : String.intercalate "." rest ≠ "" := by
    intro hempty
    have hsplit := splitOn_dotted h.rest_ne h.no_dot
    rw [hempty] at hsplit
    have hone : [[]] = rest.map String.toList := hsplit
    obtain ⟨s, hs, hnil⟩ : ∃ s ∈ rest, s.toList = [] := by
      rw [← List.mem_map, ← hone]
      exact List.mem_singleton_self []
    exact h.no_empty s hs (by simpa using hnil)
  have hcodes : codes (String.intercalate "." rest) ≠ [] := by
    intro h
    rw [← lossy_codes (String.intercalate "." rest), h] at hne
    exact hne rfl
  rw [name, nameOf, h.texts_eq, List.map_cons, reportName, withoutRequestPart_cons h.part,
    ← codes_intercalate]
  simp only [if_neg hcodes, lossy_codes]

theorem Plain.rest_eq (hf : f.Plain part rest) (hg : g.Plain part' rest')
    (h : f.name = g.name) : rest = rest' := by
  rw [hf.name_eq, hg.name_eq] at h
  have hsplit := splitOn_dotted hf.rest_ne hf.no_dot
  rw [h, splitOn_dotted hg.rest_ne hg.no_dot] at hsplit
  exact (List.map_injective_iff.2 (fun _ _ => String.toList_injective) hsplit).symm

end Finding

/-! ## Texts of places -/

theorem Part.textCodes_index (n : Int) :
    (index n).toValue.textCodes = (Value.integerText n).map codes := by
  rw [toValue, Value.textCodes, Value.text, Value.literal]
  all_goals simp

theorem Part.textCodes_eq {p : Part} (h : p.Writable) :
    p.toValue.textCodes = .ok (codes p.text) := by
  cases p with
  | name s => rfl
  | index n =>
      rw [textCodes_index, Value.integerText_eq_ok h]
      rfl

theorem Part.textCodes_of_not_writable {p : Part} (h : ¬ p.Writable) :
    p.toValue.textCodes = .error .digitLimit := by
  cases p with
  | name s => exact absurd trivial h
  | index n =>
      have hlong : ¬ n.natAbs < Value.digitBound := h
      rw [textCodes_index, Value.integerText, if_neg hlong]
      rfl

theorem textsOf_eq {place : List Part} (h : ∀ p ∈ place, p.Writable) :
    textsOf (place.map Part.toValue) = .ok ((place.map Part.text).map codes) := by
  induction place with
  | nil => rfl
  | cons p place ih =>
      obtain ⟨hp, hplace⟩ := List.forall_mem_cons.1 h
      rw [List.map_cons, textsOf, Part.textCodes_eq hp, ok_bind, ih hplace]
      rfl

theorem textsOf_of_not_writable {place : List Part} (h : ¬ ∀ p ∈ place, p.Writable) :
    textsOf (place.map Part.toValue) = .error .digitLimit := by
  induction place with
  | nil => simp at h
  | cons p place ih =>
      rw [List.map_cons, textsOf]
      by_cases hp : p.Writable
      · have hplace : ¬ ∀ q ∈ place, q.Writable :=
          fun hall => h (List.forall_mem_cons.2 ⟨hp, hall⟩)
        rw [Part.textCodes_eq hp, ok_bind, ih hplace]
        rfl
      · rw [Part.textCodes_of_not_writable hp]
        rfl

/-! ## Storing findings -/

section Stored

variable {v : Value} {f : Finding} {findings : List Value} {found : List Finding}

/-- A finding is stored under its name. -/
theorem States.addFinding_eq (h : States v f) (hf : f.Writable) (report : Table Value) :
    addFinding report v = .ok (report.put (.string f.name) f.details) := by
  obtain ⟨entries, rfl, hloc, hmsg⟩ := h.fields
  simp only [addFinding, hloc, hmsg]
  rw [Value.parts, Value.parts?]
  have hname : reportName ((f.place.map Part.text).map codes) = codes f.name :=
    (codes_nameOf f.texts).symm
  simp only [ok_bind, textsOf_eq hf, hname, Value.ofCodes_codes]
  rfl

theorem States.addFinding_of_not_writable (h : States v f) (hf : ¬ f.Writable)
    (report : Table Value) : addFinding report v = .error .digitLimit := by
  obtain ⟨entries, rfl, hloc, -⟩ := h.fields
  simp only [addFinding, hloc]
  rw [Value.parts, Value.parts?]
  simp only [ok_bind, textsOf_of_not_writable hf, error_bind]

/-- Findings are stored one after the other. -/
theorem reportOf_eq (h : List.Forall₂ States findings found) (hw : ∀ f ∈ found, f.Writable)
    (report : Table Value) : reportOf report findings =
      .ok (Table.putAll report (found.map fun f => (.string f.name, f.details))) := by
  induction h generalizing report with
  | nil => rfl
  | cons hv _ ih =>
      obtain ⟨hf, hw⟩ := List.forall_mem_cons.1 hw
      rw [reportOf, hv.addFinding_eq hf, ok_bind, ih hw]
      rfl

theorem reportOf_of_not_writable (h : List.Forall₂ States findings found)
    (hw : ¬ ∀ f ∈ found, f.Writable) (report : Table Value) :
    reportOf report findings = .error .digitLimit := by
  induction h generalizing report with
  | nil => simp at hw
  | @cons v f _ found hv _ ih =>
      rw [reportOf]
      by_cases hf : f.Writable
      · have hrest : ¬ ∀ g ∈ found, g.Writable := fun hall => hw (List.forall_mem_cons.2 ⟨hf, hall⟩)
        rw [hv.addFinding_eq hf, ok_bind, ih hrest]
      · rw [hv.addFinding_of_not_writable hf]
        rfl

end Stored

/-! ## The report -/

/-- All findings, each stored under its name. -/
def reported (found : List Finding) : Table Value :=
  Table.ofNamed .string Finding.name Finding.details found

section Reported

variable (found : List Finding)

theorem key_string_injective (s t : String) (h : (Value.string s).key = (Value.string t).key) :
    s = t :=
  Key.text.inj h

theorem keys_reported :
    (reported found).keys = (found.map Finding.name).eraseDups.map .string :=
  Table.keys_ofNamed key_string_injective _ found

theorem length_reported :
    (reported found).length = (found.map Finding.name).toFinset.card := by
  have hlength : (reported found).length = (found.map Finding.name).eraseDups.length := by
    rw [← List.length_map Value.string, ← keys_reported, Table.keys, List.length_map]
  -- the keys of the entries do not repeat, and they are those of the names
  have hnodup : (found.map Finding.name).eraseDups.Nodup := by
    have hdistinct : (reported found).Distinct := Table.distinct_ofNamed _ found
    have hkeyed : ((reported found).map fun e => e.1.key) =
        (reported found).keys.map Value.key := by
      simp [Table.keys]
    rw [Table.Distinct, hkeyed, keys_reported, List.map_map] at hdistinct
    exact hdistinct.of_map _
  rw [hlength, ← List.toFinset_card_of_nodup hnodup]
  congr 1
  ext name
  simp

theorem origin_of_mem_reported {e : Value × Value} (he : e ∈ reported found) :
    ∃ f ∈ found, e = (.string f.name, f.details) := by
  have hname : e.1 ∈ (reported found).keys := List.mem_map_of_mem he
  rw [keys_reported] at hname
  obtain ⟨s, -, hs⟩ := List.mem_map.1 hname
  rcases Table.mem_putAll he with hnil | ⟨_, hentry, hkey, hvalue⟩
  · simp at hnil
  · obtain ⟨f, hf, rfl⟩ := List.mem_map.1 hentry
    rw [← hs] at hkey
    refine ⟨f, hf, Prod.ext ?_ hvalue⟩
    rw [← hs, key_string_injective _ _ hkey]

/-- There are as many entries as places if no two places have the same name, and fewer
otherwise. -/
theorem length_reported_eq_iff :
    (reported found).length = (found.map Finding.place).toFinset.card ↔
      ∀ f ∈ found, ∀ g ∈ found, f.name = g.name → f.place = g.place := by
  have himage : (found.map Finding.name).toFinset =
      (found.map Finding.place).toFinset.image fun place =>
        Finding.nameOf (place.map Part.text) := by
    ext name
    simp [Finding.name, Finding.texts]
  rw [length_reported, himage, Finset.card_image_iff]
  simp [Set.InjOn, Finding.name, Finding.texts]

theorem reports_reported : Reports found (reported found) where
  keys := keys_reported found
  size := length_reported found
  origin _ he := origin_of_mem_reported found he
  last := by
    rintro before f after rfl hlast
    exact Table.get?_ofNamed key_string_injective _ hlast
  complete := length_reported_eq_iff found
  apart := by
    intro f _ g _ part rest rest' hf hg h
    rw [hf.texts_eq, hg.texts_eq, hf.rest_eq hg h]

/-- A report is written as JSON. -/
theorem reported_written (error : String) :
    ∃ text, Json.write (failureBody (codes error) (reported found)) = .ok text := by
  have hreport : ∃ text, Json.write (.map (reported found)) = .ok text := by
    rw [Value.write_map_eq_ok_iff]
    intro e he
    obtain ⟨f, -, rfl⟩ := origin_of_mem_reported found he
    exact ⟨Value.naming_string _, _, rfl⟩
  rw [failureBody, Value.ofCodes_codes, Value.write_map_eq_ok_iff]
  simp only [List.forall_mem_cons]
  exact ⟨⟨Value.naming_string _, _, rfl⟩, ⟨Value.naming_string _, hreport⟩, nofun⟩

end Reported

/-! ## The reply -/

section Reply

variable {s : Settings} {findings : List Value} {found : List Finding}

theorem invalidReply_eq_reported (hs : s.isDevelopment = true)
    (h : List.Forall₂ States findings found) (hw : ∀ f ∈ found, f.Writable) :
    invalidReply s findings = (Json.write (failureBody (codes "Request validation failed")
      (reported found))).map (.json 422) := by
  rw [invalidReply, if_pos hs, reportOf_eq h hw, ok_bind]
  rfl

/-- In development the findings of an invalid request are reported by name, whatever they are, if
all indices in their places can be written. Findings of different places with one name share the
entry of the last of them. An index that is too long leaves the request without a reply. -/
theorem invalidReply_reports (hs : s.isDevelopment = true)
    (h : List.Forall₂ States findings found) :
    ((∀ f ∈ found, f.Writable) → ∃ report text, Reports found report ∧
      Json.write (failureBody (codes "Request validation failed") report) = .ok text ∧
      invalidReply s findings = .ok (.json 422 text)) ∧
    ((¬ ∀ f ∈ found, f.Writable) → invalidReply s findings = .error .digitLimit) := by
  constructor
  · intro hw
    obtain ⟨text, htext⟩ := reported_written found "Request validation failed"
    refine ⟨reported found, text, reports_reported found, htext, ?_⟩
    rw [invalidReply_eq_reported hs h hw, htext]
    rfl
  · intro hw
    rw [invalidReply, if_pos hs, reportOf_of_not_writable h hw]
    rfl

end Reply

/-! ## Two findings of one field -/

/-- A finding as it is given. -/
def Finding.toValue (f : Finding) : Value :=
  .map [(.string "loc", .tuple (f.place.map Part.toValue)), (.string "msg", .string f.message)]

theorem Finding.states (f : Finding) : States f.toValue f := ⟨_, rfl, rfl, rfl⟩

/-- The standard settings in development. -/
def development : Settings := { Settings.standard with environment := "development" }

/-- A finding about a field of a part of a request. -/
def fieldFinding (part field message : String) : Finding :=
  ⟨[.name part, .name field], message⟩

theorem fieldFinding_writable (part field message : String) :
    (fieldFinding part field message).Writable := by
  intro p hp
  simp only [fieldFinding, List.mem_cons, List.not_mem_nil, or_false] at hp
  rcases hp with rfl | rfl
  · trivial
  · trivial

/-- Findings about two fields of a query have an entry each. -/
theorem invalidReply_reports_fields :
    development.isDevelopment = true ∧
    ∃ report text, Reports [fieldFinding "query" "n" "first", fieldFinding "query" "m" "second"]
        report ∧ report.length = 2 ∧
      invalidReply development [(fieldFinding "query" "n" "first").toValue,
        (fieldFinding "query" "m" "second").toValue] = .ok (.json 422 text) := by
  have hdevelopment : development.isDevelopment = true := by decide
  have hstates : List.Forall₂ States
      [(fieldFinding "query" "n" "first").toValue, (fieldFinding "query" "m" "second").toValue]
      [fieldFinding "query" "n" "first", fieldFinding "query" "m" "second"] :=
    .cons (Finding.states _) (.cons (Finding.states _) .nil)
  have hwritable : ∀ f ∈ [fieldFinding "query" "n" "first", fieldFinding "query" "m" "second"],
      f.Writable := by
    intro f hf
    simp only [List.mem_cons, List.not_mem_nil, or_false] at hf
    rcases hf with rfl | rfl
    · exact fieldFinding_writable _ _ _
    · exact fieldFinding_writable _ _ _
  obtain ⟨report, text, hreport, -, hreply⟩ :=
    (invalidReply_reports hdevelopment hstates).1 hwritable
  refine ⟨hdevelopment, report, text, hreport, ?_, hreply⟩
  rw [hreport.size]
  decide

/-- Findings about the fields of one name in two parts of a request share an entry, and the message
of the first is lost. An index that is too long leaves no report at all. -/
theorem two_parts_share_entry :
    (fieldFinding "query" "n" "first").place ≠ (fieldFinding "body" "n" "second").place ∧
    invalidReply development [(fieldFinding "query" "n" "first").toValue,
        (fieldFinding "body" "n" "second").toValue] =
      .ok (.json 422 ("\x7b\"error\":\"Request validation failed\",\"params\":" ++
        "\x7b\"n\":\x7b\"error\":\"second\"\x7d\x7d\x7d")) ∧
    invalidReply development [(Finding.mk [.index Value.digitBound] "first").toValue] =
      .error .digitLimit := by
  refine ⟨by decide, rfl, ?_⟩
  have hlong : ¬ ∀ f ∈ [Finding.mk [.index Value.digitBound] "first"], f.Writable := by
    intro hall
    have hindex : (Value.digitBound : Int).natAbs < Value.digitBound :=
      hall _ (List.mem_singleton_self _) _ (List.mem_singleton_self _)
    rw [Int.natAbs_natCast] at hindex
    exact Nat.lt_irrefl _ hindex
  rw [invalidReply, if_pos (by decide),
    reportOf_of_not_writable (.cons (Finding.states _) .nil) hlong]
  rfl

end ParamGate.App
