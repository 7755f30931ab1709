import ParamGate.Proofs.Parameter.Compact
import ParamGate.Proofs.Parameter.Stability

/-!
# Lists in the comma form

A list of integers, of truth values or of texts is written by the texts of its entries with a comma
between each two. Where an array of the type is declared, this text is read as the list again, and
in parentheses it is a default that is the list (`comma_form_read`). An entry comes through because
its text is not empty, has no comma, and is read as the entry (`Kind.Fits`); what ends the
parentheses is left out of texts only, since no number and no truth value has it.
-/

namespace ParamGate

open Text

/-- Entries that a list of the type has in the comma form: integers within the limit of digits,
truth values, and texts that are neither empty nor have a comma. -/
inductive Kind.Lists : Kind → Value → Prop
  | integer {n : Int} : n.natAbs < Value.digitBound → Lists .integer (.int n)
  | boolean (b : Bool) : Lists .boolean (.bool b)
  | string {s : String} : s ≠ "" → ',' ∉ s.toList → Lists .string (.string s)

/-- The text stands for the entry between commas. -/
structure Kind.Fits (k : Kind) (v : Value) (text : String) : Prop where
  text_eq : v.text = .ok text
  ne_empty : text ≠ ""
  no_comma : ',' ∉ text.toList
  no_end : k ≠ .string → ')' ∉ text.toList
  read : coerceScalar k (.string text) = .ok v

/-! ## Texts of entries -/

/-- The text of an integer has a sign and digits. -/
theorem not_mem_decimal {c : Char} (hsign : c ≠ '-') (hdigit : c.isDigit = false) (n : Int) :
    c ∉ (decimal n).toList := by
  have hdigits : c ∉ Nat.toDigits 10 n.natAbs := by
    intro hc
    simp [isDigit_toDigits hc] at hdigit
  rw [toList_decimal, signed]
  split
  · simp [hsign, hdigits]
  · exact hdigits

theorem decimal_ne_empty (n : Int) : decimal n ≠ "" := by
  intro h
  have hdigits := takeSign_decimal n
  rw [h] at hdigits
  exact Nat.toDigits_ne_nil (Prod.mk.inj hdigits).2.symm

theorem fits_integer {n : Int} (h : n.natAbs < Value.digitBound) :
    Kind.integer.Fits (.int n) (decimal n) where
  text_eq := by
    show Value.integerText n = _
    rw [Value.integerText_eq_ok h]
  ne_empty := decimal_ne_empty n
  no_comma := not_mem_decimal (by decide) (by decide) n
  no_end := fun _ => not_mem_decimal (by decide) (by decide) n
  read := by
    rw [coerceScalar_integer_string, readInteger?_decimal, if_pos h]
    rfl

theorem fits_boolean (b : Bool) : Kind.boolean.Fits (.bool b) (if b then "True" else "False") where
  text_eq := rfl
  ne_empty := by cases b <;> decide
  no_comma := by cases b <;> decide
  no_end := by cases b <;> decide
  read := by
    rw [coerceScalar_boolean_string, readBoolean?_word]
    rfl

theorem fits_string {s : String} (hne : s ≠ "") (hcomma : ',' ∉ s.toList) :
    Kind.string.Fits (.string s) s where
  text_eq := rfl
  ne_empty := hne
  no_comma := hcomma
  no_end := fun h => absurd rfl h
  read := congrArg Except.ok (coerceText_of_ne fun h => hne (Value.string.inj h))

theorem Kind.Lists.exists_fits {k : Kind} {v : Value} (h : k.Lists v) : ∃ text, k.Fits v text := by
  cases h with
  | integer hn => exact ⟨_, fits_integer hn⟩
  | boolean b => exact ⟨_, fits_boolean b⟩
  | string hne hcomma => exact ⟨_, fits_string hne hcomma⟩

theorem exists_texts {k : Kind} {values : List Value} (h : ∀ v ∈ values, k.Lists v) :
    ∃ texts, List.Forall₂ k.Fits values texts := by
  induction values with
  | nil => exact ⟨[], .nil⟩
  | cons v values ih =>
      obtain ⟨hv, hvalues⟩ := List.forall_mem_cons.1 h
      obtain ⟨text, htext⟩ := hv.exists_fits
      obtain ⟨texts, htexts⟩ := ih hvalues
      exact ⟨text :: texts, .cons htext htexts⟩

/-- What holds of the text of every entry. -/
theorem forall_of_fits {k : Kind} {values : List Value} {texts : List String} {p : String → Prop}
    (h : List.Forall₂ k.Fits values texts) (hp : ∀ v t, k.Fits v t → p t) : ∀ t ∈ texts, p t := by
  induction h with
  | nil => simp
  | cons hv _ ih => exact List.forall_mem_cons.2 ⟨hp _ _ hv, ih⟩

/-! ## Splitting -/

/-- Texts without a comma are found again between the commas. -/
theorem commaParts_intercalate {texts : List String} (hne : texts ≠ [])
    (h : ∀ t ∈ texts, ',' ∉ t.toList) :
    commaParts (codes (String.intercalate "," texts)) = texts.map .string := by
  have hcodes : codes (String.intercalate "," texts) =
      [commaCode].intercalate (texts.map codes) := codes_intercalate "," texts
  have hparts : ∀ part ∈ texts.map codes, commaCode ∉ part := by
    intro part hpart hm
    obtain ⟨t, ht, rfl⟩ := List.mem_map.1 hpart
    obtain ⟨c, hc, hcode⟩ := List.mem_map.1 hm
    obtain rfl : c = ',' := Char.toNat_inj.1 hcode
    exact h t ht hc
  rw [commaParts, hcodes, splitOn_intercalate (by simpa using hne) hparts, List.map_map]
  exact List.map_congr_left fun t _ => Value.ofCodes_codes t

theorem intercalate_ne_empty {texts : List String} (hne : texts ≠ []) (h : ∀ t ∈ texts, t ≠ "") :
    String.intercalate "," texts ≠ "" := by
  cases texts with
  | nil => exact absurd rfl hne
  | cons t texts =>
      have ht := h t List.mem_cons_self
      cases texts with
      | nil => simpa using ht
      | cons next texts =>
          rw [String.intercalate_cons_cons]
          simp [ht]

/-- A character that is in no text is in no comma form. -/
theorem not_mem_commaText {c : Char} {texts : List String} (hc : c ≠ ',')
    (h : ∀ t ∈ texts, c ∉ t.toList) : c ∉ (String.intercalate "," texts).toList := by
  rw [String.toList_intercalate]
  intro hm
  rcases mem_intercalate hm with hcomma | ⟨part, hpart, hm⟩
  · exact hc hcomma
  · obtain ⟨t, ht, rfl⟩ := List.mem_map.1 hpart
    exact h t ht hm

/-- The comma form of entries is coerced to the entries. -/
theorem coerce_commaText {k : Kind} {values : List Value} {texts : List String}
    (hne : texts ≠ []) (h : List.Forall₂ k.Fits values texts) :
    coerce k true (.string (String.intercalate "," texts)) = .ok (.list values) := by
  have htruthy : (Value.string (String.intercalate "," texts)).truthy = true := by
    simpa [Value.truthy] using intercalate_ne_empty hne (forall_of_fits h fun _ _ hv => hv.ne_empty)
  have hparts : arrayParts (.string (String.intercalate "," texts)) = texts.map .string :=
    commaParts_intercalate hne (forall_of_fits h fun _ _ hv => hv.no_comma)
  have hread : (texts.map Value.string).mapM (coerceScalar k) = .ok values := by
    rw [mapM_eq_ok_iff_forall₂ fun _ _ _ => Iff.rfl, List.forall₂_map_left_iff]
    exact h.flip.imp fun _ _ hv => hv.read
  rw [coerce_single k true rfl, coerceSingle_eq, htruthy, hparts, hread]
  rfl

/-! ## Declarations -/

theorem Kind.ofToken?_name (k : Kind) : Kind.ofToken? k.name = some k := by
  cases k with
  | any => exact congrArg Kind.ofName? (lower_trim_ascii rfl)
  | string => exact congrArg Kind.ofName? (lower_trim_ascii rfl)
  | boolean => exact congrArg Kind.ofName? (lower_trim_ascii rfl)
  | number => exact congrArg Kind.ofName? (lower_trim_ascii rfl)
  | integer => exact congrArg Kind.ofName? (lower_trim_ascii rfl)

theorem Kind.parse_name (k : Kind) : Kind.parse (.string k.name) = .ok k :=
  Kind.parse_of_ofToken? (Kind.ofToken?_name k)

namespace CompactForm

/-- The compact form of an array of the type with a default. -/
def ofArray (k : Kind) (text : String) : CompactForm := ⟨codes k.name, true, some (codes text)⟩

theorem isName_name (k : Kind) : IsName (codes k.name) := by
  cases k <;> decide

theorem names_ofArray (k : Kind) (text : String) : (ofArray k text).Names k := by
  show Kind.ofName? (lower (lossy (codes k.name))) = some k
  rw [← ofToken?_name (isName_name k), lossy_codes, Kind.ofToken?_name]

theorem spelled_ofArray (k : Kind) {text : String} (h : ')' ∉ text.toList) :
    (ofArray k text).Spelled (codes (k.name ++ "[](" ++ text ++ ")")) where
  name := isName_name k
  default := by
    rintro ds ⟨⟩ hm
    obtain ⟨c, hc, hcode⟩ := List.mem_map.1 hm
    obtain rfl : c = ')' := Char.toNat_inj.1 hcode
    exact h hc
  parts := by
    refine ⟨[], [], [], [], by decide, by decide, by decide, by decide, ?_⟩
    simp [ofArray, brackets, parentheses, codes, codesOf]

/-- A text without a closing parenthesis is the default of an array, as it is coerced. -/
theorem parse_ofArray {k : Kind} {text : String} {default : Value} (h : ')' ∉ text.toList)
    (hread : coerce k true (.string text) = .ok default) :
    Definition.parse (.string (k.name ++ "[](" ++ text ++ ")")) =
      .ok (Definition.ofParts k (ofArray k text) default) := by
  have hdefault : (ofArray k text).Gives k default := by
    show coerce k true (.ofCodes (codes text)) = _
    rwa [Value.ofCodes_codes]
  rw [← Value.ofCodes_codes, Definition.parse_ofCodes]
  exact Definition.ofCompact_of_spelled (spelled_ofArray k h) (names_ofArray k text) hdefault

end CompactForm

/-- The texts of integers within the limit of digits are their decimal forms. -/
theorem mapM_text_int {ns : List Int} (h : ∀ n ∈ ns, n.natAbs < Value.digitBound) :
    (ns.map Value.int).mapM Value.text = .ok (ns.map decimal) := by
  rw [mapM_eq_ok_iff_forall₂ fun _ _ _ => Iff.rfl, List.forall₂_map_left_iff,
    List.forall₂_map_right_iff, List.forall₂_same]
  exact fun n hn => (fits_integer (h n hn)).text_eq

/-- The comma form of a list is read as the list, and it declares a default that is the list. -/
theorem comma_form_read {k : Kind} {values : List Value} (hne : values ≠ [])
    (h : ∀ v ∈ values, k.Lists v) :
    ∃ texts, values.mapM Value.text = .ok texts ∧
      coerceAs (.string k.name) (.bool true) (.string (String.intercalate "," texts)) =
        .ok (.list values) ∧
      ((k = .string → ∀ t ∈ texts, ')' ∉ t.toList) →
        ∃ d, Definition.parse (.string (k.name ++ "[](" ++ String.intercalate "," texts ++ ")")) =
            .ok d ∧
          d.type = .kind k ∧ d.array = .bool true ∧ d.required = .bool false ∧
          d.default = .list values) := by
  obtain ⟨texts, hfits⟩ := exists_texts h
  have htexts : texts ≠ [] := by
    rintro rfl
    exact hne (List.forall₂_nil_right_iff.1 hfits)
  have hcoerce := coerce_commaText htexts hfits
  refine ⟨texts, ?_, ?_, ?_⟩
  · rw [mapM_eq_ok_iff_forall₂ fun _ _ _ => Iff.rfl]
    exact hfits.imp fun _ _ hv => hv.text_eq
  · rw [coerceAs, Kind.parse_name, ok_bind]
    exact hcoerce
  · intro hstring
    -- only a text can have what ends the parentheses
    have hend : ∀ t ∈ texts, ')' ∉ t.toList := by
      by_cases hk : k = .string
      · exact hstring hk
      · exact forall_of_fits hfits fun _ _ hv => hv.no_end hk
    have htext := not_mem_commaText (by decide : ')' ≠ ',') hend
    exact ⟨_, CompactForm.parse_ofArray htext hcoerce, rfl, rfl, rfl, rfl⟩

/-- Integers of both signs, and a default with blanks and an open parenthesis. -/
theorem comma_form_read_entries :
    coerceAs (.string "integer") (.bool true) (.string "-7,0,12") =
      .ok (.list [.int (-7), .int 0, .int 12]) ∧
    ∃ d, Definition.parse (.string "string[](a (b, )") = .ok d ∧
      d.type = .kind .string ∧ d.array = .bool true ∧ d.required = .bool false ∧
      d.default = .list [.string "a (b", .string " "] := by
  constructor
  · have hbound : 100 ≤ Value.digitBound := by
      rw [digitBound_eq]
      exact Nat.pow_le_pow_right (n := 10) (by decide) (by decide : 2 ≤ maxDigits)
    have hint : ∀ n ∈ [(-7 : Int), 0, 12], n.natAbs < Value.digitBound := by
      intro n hn
      exact Nat.lt_of_lt_of_le
        ((by decide : ∀ n ∈ [(-7 : Int), 0, 12], n.natAbs < 100) n hn) hbound
    have hlists : ∀ v ∈ [(-7 : Int), 0, 12].map Value.int, Kind.integer.Lists v := by
      intro v hv
      obtain ⟨n, hn, rfl⟩ := List.mem_map.1 hv
      exact .integer (hint n hn)
    obtain ⟨texts, htexts, hread, -⟩ := comma_form_read (by simp) hlists
    obtain rfl := Except.ok.inj ((mapM_text_int hint).symm.trans htexts)
    exact hread
  · have hlists : ∀ v ∈ [Value.string "a (b", .string " "], Kind.string.Lists v := by
      simp only [List.forall_mem_cons]
      exact ⟨.string (by decide) (by decide), .string (by decide) (by decide), by simp⟩
    obtain ⟨texts, htexts, -, hparse⟩ := comma_form_read (by simp) hlists
    obtain rfl : ["a (b", " "] = texts := Except.ok.inj htexts
    exact hparse fun _ => by decide

end ParamGate
