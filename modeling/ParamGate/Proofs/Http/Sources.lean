import Mathlib.Algebra.BigOperators.Group.List.Lemmas
import Mathlib.Algebra.GroupWithZero.Nat
import Mathlib.Data.List.Induction
import ParamGate.Http.Request
import ParamGate.Proofs.Text.Ascii
import ParamGate.Proofs.Value.Json
import ParamGate.Proofs.Value.Table

/-!
# Sources made of pairs

A query or a form gives pairs, in which names may repeat, and `gather` makes a table of them.
`Gathers` says what a table keeps of its pairs: every name once, in the order in which the names
first occur, and every value, in the order of the values of its name. Two lists of pairs make the
same table up to the order of names exactly if each name has the same values in both. The query and
the form bodies of a request are gathered in this way, with the files of a form among the values
(`sources_gather`).
-/

namespace ParamGate.Http

/-- How many values an entry of a source holds. -/
def valueCount : Value → Nat
  | .list values => values.length
  | _ => 1

/-- Ways to make values of names and of what stands under them: nothing different is made the same,
and one thing is never taken for a list. -/
structure Writes {α β : Type} (toName : α → Value) (toValue : β → Value) : Prop where
  name_injective : ∀ a b, (toName a).key = (toName b).key → a = b
  value_injective : ∀ a b, toValue a = toValue b → a = b
  single : ∀ b items, toValue b ≠ .list items

/-! ## One value and several values -/

section Gathered

variable {α β : Type} {toName : α → Value} {toValue : β → Value}

theorem Writes.inj (h : Writes toName toValue) {a b : α} (hab : toName a = toName b) : a = b :=
  h.name_injective a b (congrArg Value.key hab)

theorem valueCount_gathered (h : Writes toName toValue) (values : List β) :
    valueCount (gathered toValue values) = values.length := by
  match values with
  | [] => rfl
  | [b] =>
      have hsingle := h.single b
      rw [gathered, valueCount.eq_def]
      split
      · rename_i items he
        exact absurd he (hsingle items)
      · rfl
  | a :: b :: rest => simp [gathered, valueCount]

theorem gathered_repeated {values : List β} (h : 2 ≤ values.length) :
    gathered toValue values = .list (values.map toValue) := by
  match values with
  | [] => simp at h
  | [a] => simp at h
  | a :: b :: rest => rfl

/-- One value and a list of values are never confused. -/
theorem gathered_injective (h : Writes toName toValue) {values others : List β}
    (he : gathered toValue values = gathered toValue others) : values = others := by
  have hlength : values.length = others.length := by
    rw [← valueCount_gathered h values, he, valueCount_gathered h]
  match values, others with
  | [a], [b] => rw [h.value_injective a b he]
  | [], [] => rfl
  | a :: b :: rest, c :: d :: more =>
      have hmap : (a :: b :: rest).map toValue = (c :: d :: more).map toValue := Value.list.inj he
      exact List.map_injective_iff.2 h.value_injective hmap
  | [], _ :: _ => simp at hlength
  | [_], [] => simp at hlength
  | [_], _ :: _ :: _ => simp at hlength
  | _ :: _ :: _, [] => simp at hlength
  | _ :: _ :: _, [_] => simp at hlength

end Gathered

section Gather

variable {α β : Type} [DecidableEq α]

/-- The table holds the pairs: nothing is lost of them and nothing is added. -/
structure Gathers (toName : α → Value) (toValue : β → Value) (pairs : List (α × β))
    (t : Table Value) : Prop where
  /-- The names are those of the pairs, each once, in the order of their first occurrence. -/
  keys : t.keys = (pairs.map Prod.fst).eraseDups.map toName
  distinct : t.Distinct
  /-- A name that occurs once has its value. -/
  once : ∀ name value, (pairs.filter fun p => p.1 = name).map Prod.snd = [value] →
    t.get? (toName name) = some (toValue value)
  /-- A name that occurs more often has the list of its values in order. -/
  repeated : ∀ name values, (pairs.filter fun p => p.1 = name).map Prod.snd = values →
    2 ≤ values.length → t.get? (toName name) = some (.list (values.map toValue))
  total : (t.map fun e => valueCount e.2).sum = pairs.length
  /-- Only the order of pairs of different names is lost, and it only counts for the order of
  names. -/
  rearranged : ∀ others, (gather toName toValue others).Perm t ↔
    ∀ name, (others.filter fun p => p.1 = name) = pairs.filter fun p => p.1 = name

/-! ## Names -/

theorem names_concat (pairs : List (α × β)) (p : α × β) :
    names (pairs ++ [p]) =
      if p.1 ∈ names pairs then names pairs else names pairs ++ [p.1] := by
  rw [names, List.foldl_append, ← names]
  simp

/-- Names are listed at their first occurrence. -/
theorem names_eq (pairs : List (α × β)) : names pairs = (pairs.map Prod.fst).eraseDups := by
  induction pairs using List.reverseRecOn with
  | nil => rfl
  | append_singleton pairs p ih =>
      have hmem : p.1 ∈ names pairs ↔ p.1 ∈ pairs.map Prod.fst := by
        rw [ih, List.mem_eraseDups]
      rw [names_concat, List.map_append, List.eraseDups_append, List.map_singleton, ← ih]
      by_cases hp : p.1 ∈ pairs.map Prod.fst
      · rw [if_pos (hmem.2 hp)]
        simp [List.removeAll, hp]
      · rw [if_neg (mt hmem.1 hp)]
        simp [List.removeAll, hp, List.eraseDups_cons]

theorem nodup_names (pairs : List (α × β)) : (names pairs).Nodup := by
  induction pairs using List.reverseRecOn with
  | nil => exact List.nodup_nil
  | append_singleton pairs p ih =>
      rw [names_concat]
      split
      · exact ih
      · rename_i hp
        apply List.Nodup.append ih (List.nodup_singleton p.1)
        intro name hname hp'
        obtain rfl := List.mem_singleton.1 hp'
        exact hp hname

theorem valuesOf_eq (pairs : List (α × β)) (name : α) :
    valuesOf pairs name = (pairs.filter fun p => p.1 = name).map Prod.snd := by
  induction pairs with
  | nil => rfl
  | cons p pairs ih =>
      rw [valuesOf] at ih ⊢
      by_cases hp : p.1 = name
      · simp [hp, ih]
      · simp [hp, ih]

/-- The pairs of a name are given by its values. -/
theorem filter_eq (pairs : List (α × β)) (name : α) :
    (pairs.filter fun p => p.1 = name) = (valuesOf pairs name).map fun v => (name, v) := by
  induction pairs with
  | nil => rfl
  | cons p pairs ih =>
      rw [valuesOf] at ih ⊢
      by_cases hp : p.1 = name
      · subst hp
        simp [ih]
      · simp [hp, ih]

theorem valuesOf_congr_iff {pairs others : List (α × β)} {name : α} :
    valuesOf others name = valuesOf pairs name ↔
      (others.filter fun p => p.1 = name) = pairs.filter fun p => p.1 = name := by
  constructor
  · intro h
    rw [filter_eq, filter_eq, h]
  · intro h
    rw [valuesOf_eq, valuesOf_eq, h]

theorem length_valuesOf (pairs : List (α × β)) (name : α) :
    (valuesOf pairs name).length = (pairs.map Prod.fst).count name := by
  induction pairs with
  | nil => rfl
  | cons p pairs ih =>
      rw [valuesOf] at ih ⊢
      by_cases hp : p.1 = name
      · simp [hp, ih]
      · simp [hp, ih]

/-- A name is listed exactly if it has a value. -/
theorem mem_names_iff {pairs : List (α × β)} {name : α} :
    name ∈ names pairs ↔ valuesOf pairs name ≠ [] := by
  rw [names_eq, List.mem_eraseDups, ← List.count_pos_iff, ← length_valuesOf,
    List.length_pos_iff_ne_nil]

/-- Every pair has its value under its name. -/
theorem sum_length_valuesOf (pairs : List (α × β)) :
    ((names pairs).map fun name => (valuesOf pairs name).length).sum = pairs.length := by
  have hperm : (names pairs).Perm (pairs.map Prod.fst).dedup := by
    apply (List.perm_ext_iff_of_nodup (nodup_names pairs) (List.nodup_dedup _)).2
    intro name
    rw [names_eq, List.mem_eraseDups, List.mem_dedup]
  calc ((names pairs).map fun name => (valuesOf pairs name).length).sum
      = ((names pairs).map fun name => (pairs.map Prod.fst).count name).sum := by
        simp only [length_valuesOf]
    _ = ((pairs.map Prod.fst).dedup.map fun name => (pairs.map Prod.fst).count name).sum :=
        (hperm.map _).sum_eq
    _ = (pairs.map Prod.fst).length := List.sum_map_count_dedup_eq_length _
    _ = pairs.length := List.length_map _

/-! ## Entries -/

variable {toName : α → Value} {toValue : β → Value}

theorem keys_gather (pairs : List (α × β)) :
    Table.keys (gather toName toValue pairs) = (names pairs).map toName := by
  simp [Table.keys, gather, Function.comp_def]

theorem distinct_gather (h : Writes toName toValue) (pairs : List (α × β)) :
    Table.Distinct (gather toName toValue pairs) := by
  have hkeys : (gather toName toValue pairs).map (fun e => e.1.key) =
      (names pairs).map fun name => (toName name).key := by
    simp [gather, Function.comp_def]
  rw [Table.Distinct, hkeys]
  exact (nodup_names pairs).map fun a b hab => h.name_injective a b hab

theorem mem_gather_iff (h : Writes toName toValue) {pairs : List (α × β)} {name : α} {v : Value} :
    (toName name, v) ∈ gather toName toValue pairs ↔
      valuesOf pairs name ≠ [] ∧ v = gathered toValue (valuesOf pairs name) := by
  rw [← mem_names_iff, gather, List.mem_map]
  constructor
  · rintro ⟨other, hother, he⟩
    obtain ⟨hname, rfl⟩ := Prod.mk.inj he
    obtain rfl := h.inj hname
    exact ⟨hother, rfl⟩
  · rintro ⟨hname, rfl⟩
    exact ⟨name, hname, rfl⟩

theorem get?_gather (h : Writes toName toValue) {pairs : List (α × β)} {name : α}
    (hne : valuesOf pairs name ≠ []) :
    Table.get? (gather toName toValue pairs) (toName name) =
      some (gathered toValue (valuesOf pairs name)) := by
  apply Table.get?_of_mem (distinct_gather h pairs)
  exact (mem_gather_iff h).2 ⟨hne, rfl⟩

/-- Two lists of pairs make the same entries exactly if every name has the same values in both. -/
theorem gather_perm_iff (h : Writes toName toValue) {pairs others : List (α × β)} :
    (gather toName toValue others).Perm (gather toName toValue pairs) ↔
      ∀ name, valuesOf others name = valuesOf pairs name := by
  have hnodup : ∀ ps : List (α × β), (gather toName toValue ps).Nodup := by
    intro ps
    exact List.Nodup.of_map _ (distinct_gather h ps)
  rw [List.perm_ext_iff_of_nodup (hnodup others) (hnodup pairs)]
  constructor
  · intro hmem name
    -- a name without values on one side has none on the other, or its entry would be missing
    by_cases ho : valuesOf others name = []
    · by_contra hne
      have hp : valuesOf pairs name ≠ [] := fun hp => hne (ho.trans hp.symm)
      have hentry := (hmem _).2 ((mem_gather_iff h).2 ⟨hp, rfl⟩)
      exact ((mem_gather_iff h).1 hentry).1 ho
    · have hentry := (hmem _).1 ((mem_gather_iff h).2 ⟨ho, rfl⟩)
      exact gathered_injective h ((mem_gather_iff h).1 hentry).2
  · intro hvalues e
    have hnames : ∀ name, name ∈ names others ↔ name ∈ names pairs := by
      intro name
      rw [mem_names_iff, mem_names_iff, hvalues name]
    rw [gather, gather, List.mem_map, List.mem_map]
    simp only [hnames, hvalues]

theorem gathers_gather (h : Writes toName toValue) (pairs : List (α × β)) :
    Gathers toName toValue pairs (gather toName toValue pairs) where
  keys := by rw [keys_gather, names_eq]
  distinct := distinct_gather h pairs
  once := by
    intro name value hvalue
    rw [← valuesOf_eq] at hvalue
    rw [get?_gather h (by simp [hvalue]), hvalue, gathered]
  repeated := by
    intro name values hvalues htwo
    rw [← valuesOf_eq] at hvalues
    have hne : valuesOf pairs name ≠ [] := by
      rw [hvalues]
      rintro rfl
      simp at htwo
    rw [get?_gather h hne, hvalues, gathered_repeated htwo]
  total := by
    rw [gather, List.map_map, ← sum_length_valuesOf pairs]
    simp only [Function.comp_def, valueCount_gathered h]
  rearranged := by
    intro others
    rw [gather_perm_iff h]
    simp only [valuesOf_congr_iff]

end Gather

/-! ## Sources of a request -/

theorem writes_string : Writes Value.string Value.string where
  name_injective := fun _ _ hab => Key.text.inj hab
  value_injective := fun _ _ hab => Value.string.inj hab
  single := nofun

/-- Codes are found again in the key of their value. -/
theorem key_ofCodes_injective (a b : Text.Codes)
    (h : (Value.ofCodes a).key = (Value.ofCodes b).key) : a = b := by
  rw [Value.ofCodes, Value.ofCodes] at h
  -- a text has the key of its characters, and only one without characters has that of its codes
  cases ha : Text.ofCodes? a with
  | none =>
      cases hb : Text.ofCodes? b with
      | none =>
          rw [ha, hb] at h
          exact Key.codes.inj h
      | some ds => simp [ha, hb, Value.key] at h
  | some cs =>
      cases hb : Text.ofCodes? b with
      | none => simp [ha, hb, Value.key] at h
      | some ds =>
          rw [ha, hb] at h
          have hcs : cs = ds := String.ofList_injective (Key.text.inj h)
          rw [Text.ofCodes?_eq_some_iff.1 ha, Text.ofCodes?_eq_some_iff.1 hb, hcs]

/-- A text is no file. -/
theorem ofCodes_ne_upload (data : Text.Codes) (u : Upload) : Value.ofCodes data ≠ .upload u := by
  intro h
  rcases Value.ofCodes_isText data with ⟨s, hs⟩ | ⟨codes, hs⟩
  · rw [hs] at h
    cases h
  · rw [hs] at h
    cases h

theorem Entry.toValue_injective (a b : Entry) (h : a.toValue = b.toValue) : a = b := by
  cases a with
  | text data =>
      cases b with
      | text other => rw [key_ofCodes_injective data other (congrArg Value.key h)]
      | file u => exact absurd h (ofCodes_ne_upload data u)
  | file u =>
      cases b with
      | text data => exact absurd h.symm (ofCodes_ne_upload data u)
      | file v => rw [Value.upload.inj h]

theorem writes_entries : Writes Value.ofCodes Entry.toValue where
  name_injective := key_ofCodes_injective
  value_injective := Entry.toValue_injective
  single := by
    intro entry items h
    cases entry with
    | text data =>
        rcases Value.ofCodes_isText data with ⟨s, hs⟩ | ⟨codes, hs⟩
        · rw [Entry.toValue, hs] at h
          cases h
        · rw [Entry.toValue, hs] at h
          cases h
    | file u => cases h

/-- The content type of a request, empty if it gives none. -/
def Request.contentType (r : Request) : String := (r.headers.first? "content-type").getD ""

/-- Requests whose body is said to be a form. -/
def Request.IsForm (r : Request) : Prop :=
  mediaType r.contentType = "application/x-www-form-urlencoded" ∨
    mediaType r.contentType = "multipart/form-data"

/-- What a body gives that is said to be a form: a table of the pairs that are read as the content
type tells, files and texts, and nothing if it tells of no form when it is read with its options. -/
inductive GathersForm (r : Request) : Table Value → Prop
  | encoded {options : List Pair} {t : Table Value} :
      headerOptions? r.contentType = some ("application/x-www-form-urlencoded", options) →
      Gathers .string .string (formPairs r.body) t → GathersForm r t
  | parts {options : List Pair} {t : Table Value} :
      headerOptions? r.contentType = some ("multipart/form-data", options) →
      Gathers .ofCodes Entry.toValue (multipartPairs options r.body) t → GathersForm r t
  | other : (∀ type options, headerOptions? r.contentType = some (type, options) →
      type ≠ "application/x-www-form-urlencoded" ∧ type ≠ "multipart/form-data") →
      GathersForm r []

theorem gathersForm_formSource (r : Request) : GathersForm r (formSource r.contentType r.body) := by
  rw [formSource]
  split
  · rename_i options h
    exact .encoded h (gathers_gather writes_string _)
  · rename_i options h
    exact .parts h (gathers_gather writes_entries _)
  · rename_i hencoded hparts
    apply GathersForm.other
    intro type options h
    constructor
    · rintro rfl
      exact hencoded options h
    · rintro rfl
      exact hparts options h

theorem bodySource_of_form {r : Request} (h : r.IsForm) :
    bodySource r = formSource r.contentType r.body := by
  rw [bodySource]
  rcases h with h | h
  · rw [Request.contentType] at h
    rw [h]
    rfl
  · rw [Request.contentType] at h
    rw [h]
    rfl

/-- The query of a request and its body, if that is a form, lose and invent no pair: each is the
table that gathers the pairs that were read. -/
theorem sources_gather (pathParams : Table Value) (r : Request) :
    (∃ query, Table.get? (sources pathParams r) (.string "query") = some (.map query) ∧
      Gathers .string .string (queryPairs r.query) query) ∧
    ∃ body, Table.get? (sources pathParams r) (.string "body") = some (.map body) ∧
      (r.IsForm → GathersForm r body) := by
  constructor
  · exact ⟨gather .string .string (queryPairs r.query), rfl, gathers_gather writes_string _⟩
  · refine ⟨bodySource r, rfl, ?_⟩
    intro hform
    rw [bodySource_of_form hform]
    exact gathersForm_formSource r

/-- A text and a file of one name are listed together. -/
example (u : Upload) :
    gather Value.ofCodes Entry.toValue
        [(Text.codes "a", .text (Text.codes "x")), (Text.codes "a", .file u)] =
      [(.string "a", .list [.string "x", .upload u])] := rfl

/-- A request with a repeated name in its query and in its form. -/
def tagsRequest : Request where
  method := "POST"
  path := "/items"
  query := latin1Bytes "id=1&x=y&id=2"
  headers := [("content-type", "application/x-www-form-urlencoded")]
  body := latin1Bytes "tag=a&tag=b"

theorem tagsRequest_isForm : tagsRequest.IsForm := by
  left
  exact Text.lower_trim_ascii rfl

theorem sources_gather_tags :
    tagsRequest.IsForm ∧
    (∃ query, Table.get? (sources [] tagsRequest) (.string "query") = some (.map query) ∧
      Gathers .string .string [("id", "1"), ("x", "y"), ("id", "2")] query) ∧
    ∃ body, Table.get? (sources [] tagsRequest) (.string "body") = some (.map body) ∧
      GathersForm tagsRequest body := by
  have hpairs : queryPairs tagsRequest.query = [("id", "1"), ("x", "y"), ("id", "2")] := by
    rfl
  obtain ⟨hquery, body, hbody, hform⟩ := sources_gather [] tagsRequest
  rw [hpairs] at hquery
  exact ⟨tagsRequest_isForm, hquery, body, hbody, hform tagsRequest_isForm⟩

end ParamGate.Http
