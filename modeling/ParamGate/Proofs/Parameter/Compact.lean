import Mathlib.Data.List.TakeWhile
import ParamGate.Proofs.Parameter.Declaration
import ParamGate.Proofs.Text.Ascii
import ParamGate.Proofs.Text.Trim

/-!
# What the compact form accepts

`CompactForm.Spelled` is the grammar of compact declarations: the name of a type, brackets and a
default in parentheses, in this order and with blanks in every gap. It is a grammar of codes, so a
text may have surrogates, but only in its default. The reader accepts exactly the
texts of the grammar (`read?_eq_some_iff`). Each stage of it takes the longest piece, which is the
only one that fits, since no blank is a word character and a default has no closing parenthesis; so
a text is spelled in one way only (`Spelled.unique`).

The main statement, `Definition.parse_spelled`, is about whole declarations. A text declares a
parameter when it is spelled with the name of a type, the declaration is the one that its parts
say, and every other text is a mistake in a declaration.
-/

namespace ParamGate

open Text

namespace CompactForm

/-! ## The grammar -/

/-- Runs of blanks, which may be empty. -/
def IsGap (ns : Codes) : Prop := ∀ n ∈ ns, isBlankCode n = true

instance (ns : Codes) : Decidable (IsGap ns) :=
  decidable_of_iff (ns.all isBlankCode = true) List.all_eq_true

/-- What can stand for a type: an asterisk, or a run of word characters. -/
def IsName (ns : Codes) : Prop :=
  ns = [asterisk] ∨ ns ≠ [] ∧ ∀ n ∈ ns, isWordCode n = true

instance (ns : Codes) : Decidable (IsName ns) :=
  decidable_of_iff (ns = [asterisk] ∨ ns ≠ [] ∧ ns.all isWordCode = true)
    (by rw [List.all_eq_true, IsName])

/-- The brackets of an array. -/
def brackets (array : Bool) : Codes := if array then [openBracket, closeBracket] else []

/-- A default in its parentheses. -/
def parentheses : Option Codes → Codes
  | none => []
  | some ns => openParenthesis :: ns ++ [closeParenthesis]

/-- The text is a spelling of the parts. -/
structure Spelled (form : CompactForm) (ns : Codes) : Prop where
  name : IsName form.name
  default : ∀ ds, form.default = some ds → closeParenthesis ∉ ds
  parts : ∃ a b c d, IsGap a ∧ IsGap b ∧ IsGap c ∧ IsGap d ∧
    ns = a ++ form.name ++ b ++ brackets form.array ++ c ++ parentheses form.default ++ d

/-! ## Blanks and word characters -/

theorem isWordCode_of_isBlankCode {n : Nat} (h : isBlankCode n = true) : isWordCode n = false :=
  isWord_of_isBlank h

theorem isBlankCode_of_isWordCode {n : Nat} (h : isWordCode n = true) : isBlankCode n = false :=
  isBlank_of_isWord h

/-- A surrogate can stand in a default only. -/
example {n : Nat} (h : isSurrogate n = true) : isBlankCode n = false ∧ isWordCode n = false := by
  have hlarge : ¬ replacement.toNat < 128 := by decide
  have hword : isWord replacement = false := by
    rw [isWord, if_neg hlarge, inRanges, ← Array.any_toList]
    decide +kernel
  rw [isBlankCode, isWordCode, charOf, if_pos h]
  exact ⟨rfl, hword⟩

/-! ## Gaps -/

theorem dropWhile_gap {gap : Codes} (h : IsGap gap) (rest : Codes) :
    (gap ++ rest).dropWhile isBlankCode = rest.dropWhile isBlankCode :=
  List.dropWhile_append_of_pos h

theorem dropWhile_gap_all {gap : Codes} (h : IsGap gap) : gap.dropWhile isBlankCode = [] :=
  List.dropWhile_eq_nil_iff.2 h

/-- A gap is taken off the front. -/
theorem exists_gap (ns : Codes) : ∃ gap, IsGap gap ∧ ns = gap ++ ns.dropWhile isBlankCode :=
  ⟨ns.takeWhile isBlankCode, fun _ hc => List.mem_takeWhile_imp hc,
    List.takeWhile_append_dropWhile.symm⟩

/-! ## Names -/

theorem isBlankCode_of_mem_name {name : Codes} (h : IsName name) :
    ∀ c ∈ name, isBlankCode c = false := by
  rcases h with rfl | ⟨-, h⟩
  · simp only [List.mem_singleton, forall_eq]
    rfl
  · exact fun c hc => isBlankCode_of_isWordCode (h c hc)

theorem dropWhile_name {name : Codes} (h : IsName name) (rest : Codes) :
    (name ++ rest).dropWhile isBlankCode = name ++ rest := by
  have hblank := isBlankCode_of_mem_name h
  cases name with
  | nil => simp [IsName] at h
  | cons c ns => exact List.dropWhile_cons_of_neg (by simp [hblank c List.mem_cons_self])

theorem takeName?_eq_some {ns name rest : Codes} (h : takeName? ns = some (name, rest)) :
    IsName name ∧ ns = name ++ rest := by
  unfold takeName? at h
  split at h
  · obtain ⟨rfl, rfl⟩ := Prod.mk.inj (Option.some.inj h)
    exact ⟨Or.inl rfl, rfl⟩
  · split at h
    · simp at h
    · rename_i hne
      obtain ⟨rfl, rfl⟩ := Prod.mk.inj (Option.some.inj h)
      exact ⟨Or.inr ⟨hne, fun c hc => List.mem_takeWhile_imp hc⟩,
        List.takeWhile_append_dropWhile.symm⟩

/-- A name is taken as a whole where no word character follows. -/
theorem takeName?_append {name rest : Codes} (h : IsName name)
    (hrest : ∀ c ∈ rest.head?, isWordCode c = false) :
    takeName? (name ++ rest) = some (name, rest) := by
  rcases h with rfl | ⟨hne, hword⟩
  · rfl
  · have htake : (name ++ rest).takeWhile isWordCode = name := by
      rw [List.takeWhile_append_of_pos hword]
      cases rest with
      | nil => simp
      | cons c rest => simp [hrest c rfl]
    have hdrop : (name ++ rest).dropWhile isWordCode = rest := by
      rw [List.dropWhile_append_of_pos hword]
      cases rest with
      | nil => rfl
      | cons c rest => simp [hrest c rfl]
    unfold takeName?
    split
    · -- an asterisk is no word character
      rename_i heq
      obtain ⟨c, ns, rfl⟩ := List.exists_cons_of_ne_nil hne
      obtain rfl := (List.cons.inj heq).1
      have hstar := hword asterisk List.mem_cons_self
      exact absurd hstar (by decide)
    · rw [htake, hdrop]
      split
      · exact absurd rfl hne
      · rfl

/-! ## Brackets and defaults -/

theorem brackets_takeBrackets (ns : Codes) :
    brackets (takeBrackets ns).1 ++ (takeBrackets ns).2 = ns := by
  unfold takeBrackets
  split
  · rfl
  · rfl

theorem takeBrackets_append (array : Bool) {rest : Codes} (h : rest.head? ≠ some openBracket) :
    takeBrackets (brackets array ++ rest) = (array, rest) := by
  cases array with
  | true => rfl
  | false =>
      show takeBrackets rest = _
      unfold takeBrackets
      split
      · simp at h
      · rfl

theorem takeDefault?_eq_some {ns rest : Codes} {default : Option Codes}
    (h : takeDefault? ns = some (default, rest)) :
    (∀ ds, default = some ds → closeParenthesis ∉ ds) ∧ ns = parentheses default ++ rest := by
  unfold takeDefault? at h
  split at h
  · split at h
    · rename_i part after hcut
      obtain ⟨rfl, rfl⟩ := Prod.mk.inj (Option.some.inj h)
      obtain ⟨hpart, hcs⟩ := cut_eq_some_iff.1 hcut
      refine ⟨?_, by rw [hcs]; simp [parentheses]⟩
      rintro ds hds
      obtain rfl := Option.some.inj hds
      exact hpart
    · simp at h
  · obtain ⟨rfl, rfl⟩ := Prod.mk.inj (Option.some.inj h)
    exact ⟨by simp, rfl⟩

theorem takeDefault?_parentheses {ds : Codes} (h : closeParenthesis ∉ ds) (rest : Codes) :
    takeDefault? (parentheses (some ds) ++ rest) = some (some ds, rest) := by
  have hcut : cut closeParenthesis (ds ++ closeParenthesis :: rest) = (ds, some rest) :=
    cut_eq_some_iff.2 ⟨h, rfl⟩
  have hfront : parentheses (some ds) ++ rest =
      openParenthesis :: (ds ++ closeParenthesis :: rest) := by
    simp [parentheses]
  rw [hfront, takeDefault?, hcut]

/-! ## The reader -/

/-- The reader takes one piece after the other, each behind a gap, up to the end. -/
theorem read?_eq_some_iff_stages {ns : Codes} {form : CompactForm} :
    read? ns = some form ↔ ∃ afterName afterBrackets last,
      takeName? (ns.dropWhile isBlankCode) = some (form.name, afterName) ∧
      takeBrackets (afterName.dropWhile isBlankCode) = (form.array, afterBrackets) ∧
      takeDefault? (afterBrackets.dropWhile isBlankCode) = some (form.default, last) ∧
      last.dropWhile isBlankCode = [] := by
  unfold read?
  constructor
  · intro h
    obtain ⟨⟨name, afterName⟩, hname, h⟩ := Option.bind_eq_some_iff.1 h
    obtain ⟨⟨default, last⟩, hdefault, h⟩ := Option.bind_eq_some_iff.1 h
    simp only [List.isEmpty_iff, Option.ite_none_right_eq_some] at h
    obtain ⟨hlast, hform⟩ := h
    obtain rfl := Option.some.inj hform
    exact ⟨afterName, _, last, hname, rfl, hdefault, hlast⟩
  · rintro ⟨afterName, afterBrackets, last, hname, hbrackets, hdefault, hlast⟩
    simp only [hname, hbrackets, hdefault, hlast, Option.bind_eq_bind, Option.bind_some,
      List.isEmpty_nil, if_true]

theorem spelled_of_read? {ns : Codes} {form : CompactForm} (h : read? ns = some form) :
    form.Spelled ns := by
  obtain ⟨afterName, afterBrackets, last, hname, hbrackets, hdefault, hlast⟩ :=
    read?_eq_some_iff_stages.1 h
  obtain ⟨hisName, hfront⟩ := takeName?_eq_some hname
  obtain ⟨hnoEnd, hback⟩ := takeDefault?_eq_some hdefault
  have hmiddle := brackets_takeBrackets (afterName.dropWhile isBlankCode)
  rw [hbrackets] at hmiddle
  obtain ⟨a, ha, hcs⟩ := exists_gap ns
  obtain ⟨b, hb, hafterName⟩ := exists_gap afterName
  obtain ⟨c, hc, hafterBrackets⟩ := exists_gap afterBrackets
  refine ⟨hisName, hnoEnd, a, b, c, last, ha, hb, hc, List.dropWhile_eq_nil_iff.1 hlast, ?_⟩
  rw [hcs, hfront, hafterName, ← hmiddle, hafterBrackets, hback]
  simp

/-- What stands first in two texts in a row stands first in one of them. -/
theorem head?_append_forall {p : Nat → Prop} {ns ds : Codes} (hcs : ∀ x ∈ ns.head?, p x)
    (hds : ∀ x ∈ ds.head?, p x) : ∀ x ∈ (ns ++ ds).head?, p x := by
  cases ns with
  | nil => exact hds
  | cons c ns => exact hcs

/-- Behind a name there is no word character. -/
theorem head?_afterName {b c d : Codes} (hb : IsGap b) (hc : IsGap c) (hd : IsGap d)
    (array : Bool) (default : Option Codes) :
    ∀ x ∈ (b ++ (brackets array ++ (c ++ (parentheses default ++ d)))).head?,
      isWordCode x = false := by
  have hgap {gap : Codes} (h : IsGap gap) : ∀ x ∈ gap.head?, isWordCode x = false := by
    intro x hx
    exact isWordCode_of_isBlankCode (h x (List.mem_of_head? hx))
  have hbrackets : ∀ x ∈ (brackets array).head?, isWordCode x = false := by
    cases array with
    | true =>
        intro x hx
        obtain rfl := Option.some.inj hx
        decide
    | false => simp [brackets]
  have hparentheses : ∀ x ∈ (parentheses default).head?, isWordCode x = false := by
    cases default with
    | none => simp [parentheses]
    | some ds =>
        intro x hx
        obtain rfl := Option.some.inj hx
        decide
  exact head?_append_forall (hgap hb) (head?_append_forall hbrackets
    (head?_append_forall (hgap hc) (head?_append_forall hparentheses (hgap hd))))

/-- Behind the gap after the brackets stands the default, or nothing. -/
theorem dropWhile_afterBrackets {c d : Codes} (hc : IsGap c) (hd : IsGap d)
    (default : Option Codes) :
    (c ++ (parentheses default ++ d)).dropWhile isBlankCode =
      default.elim [] fun ds => parentheses (some ds) ++ d := by
  rw [dropWhile_gap hc]
  cases default with
  | none => exact dropWhile_gap_all hd
  | some ds => exact List.dropWhile_cons_of_neg (by decide)

theorem takeBrackets_gaps {b c d : Codes} (hb : IsGap b) (hc : IsGap c) (hd : IsGap d)
    (array : Bool) (default : Option Codes) :
    ∃ after, takeBrackets ((b ++ (brackets array ++ (c ++ (parentheses default ++ d)))).dropWhile
        isBlankCode) = (array, after) ∧
      after.dropWhile isBlankCode = (c ++ (parentheses default ++ d)).dropWhile isBlankCode := by
  rw [dropWhile_gap hb]
  cases array with
  | true => exact ⟨_, rfl, rfl⟩
  | false =>
      -- without brackets the two gaps are one, and what follows it does not begin with a bracket
      show ∃ after, takeBrackets ((c ++ (parentheses default ++ d)).dropWhile isBlankCode) = _ ∧ _
      rw [dropWhile_afterBrackets hc hd]
      cases default with
      | none => exact ⟨[], rfl, rfl⟩
      | some ds =>
          refine ⟨_, takeBrackets_append false ?_, List.dropWhile_cons_of_neg (by decide)⟩
          exact fun h => absurd (Option.some.inj h) (by decide)

theorem takeDefault?_gaps {c d : Codes} {default : Option Codes} (hc : IsGap c)
    (hd : IsGap d) (hdefault : ∀ ds, default = some ds → closeParenthesis ∉ ds) :
    ∃ last, takeDefault? ((c ++ (parentheses default ++ d)).dropWhile isBlankCode) =
      some (default, last) ∧ last.dropWhile isBlankCode = [] := by
  rw [dropWhile_afterBrackets hc hd]
  cases default with
  | none => exact ⟨[], rfl, rfl⟩
  | some ds => exact ⟨d, takeDefault?_parentheses (hdefault ds rfl) d, dropWhile_gap_all hd⟩

theorem read?_of_spelled {ns : Codes} {form : CompactForm} (h : form.Spelled ns) :
    read? ns = some form := by
  obtain ⟨hname, hdefault, a, b, c, d, ha, hb, hc, hd, rfl⟩ := h
  obtain ⟨after, hbrackets, hafter⟩ := takeBrackets_gaps hb hc hd form.array form.default
  obtain ⟨last, htake, hlast⟩ := takeDefault?_gaps hc hd hdefault
  simp only [List.append_assoc]
  rw [read?_eq_some_iff_stages, dropWhile_gap ha, dropWhile_name hname]
  refine ⟨_, after, last, ?_, hbrackets, ?_, hlast⟩
  · exact takeName?_append hname (head?_afterName hb hc hd form.array form.default)
  · rw [hafter, htake]

/-- The reader accepts exactly the texts of the grammar. -/
theorem read?_eq_some_iff {ns : Codes} {form : CompactForm} :
    read? ns = some form ↔ form.Spelled ns :=
  ⟨spelled_of_read?, read?_of_spelled⟩

instance (form : CompactForm) (ns : Codes) : Decidable (form.Spelled ns) :=
  decidable_of_iff _ read?_eq_some_iff

/-- A text spells one form only. -/
theorem Spelled.unique {ns : Codes} {form form' : CompactForm} (h : form.Spelled ns)
    (h' : form'.Spelled ns) : form = form' :=
  Option.some.inj ((read?_of_spelled h).symm.trans (read?_of_spelled h'))

/-! ## Names and defaults -/

/-- The name stands for the type: in lower case it is the name of the type or an alias. -/
def Names (form : CompactForm) (k : Kind) : Prop :=
  Kind.ofName? (lower (lossy form.name)) = some k

/-- The default that the form gives to a parameter of the type: null if it has none, and otherwise
what its text is coerced to. -/
def Gives (form : CompactForm) (k : Kind) (default : Value) : Prop :=
  match form.default with
  | none => default = .null
  | some ds => coerce k form.array (.ofCodes ds) = .ok default

/-- A name has no blanks around it any more. -/
theorem ofToken?_name {name : Codes} (h : IsName name) :
    Kind.ofToken? (lossy name) = Kind.ofName? (lower (lossy name)) := by
  have hblank : ∀ c ∈ name.map charOf, isBlank c = false := by
    intro c hc
    obtain ⟨n, hn, rfl⟩ := List.mem_map.1 hc
    exact isBlankCode_of_mem_name h n hn
  rw [Kind.ofToken?, trim, lossy, String.toList_ofList, trimBy_of_forall hblank]

/-- What is coerced as the default of a form. -/
theorem coerce_default_eq_ok_iff (form : CompactForm) (k : Kind) (default : Value) :
    coerce k form.array (form.default.elim .null .ofCodes) = .ok default ↔
      form.Gives k default := by
  unfold Gives
  cases form.default with
  | none =>
      rw [Option.elim_none, Definition.coerce_null]
      exact ⟨fun h => (Except.ok.inj h).symm, fun h => by rw [h]⟩
  | some ds => rfl

/-- Every form gives a default, since a text can be coerced to every type. -/
theorem exists_gives (form : CompactForm) (k : Kind) : ∃ default, form.Gives k default := by
  unfold Gives
  cases form.default with
  | none => exact ⟨.null, rfl⟩
  | some ds =>
      exact (coerce_limitedBy k form.array _).eq_ok (Value.ofCodes_isText ds).not_overflows

end CompactForm

namespace Definition

/-- A text is a compact declaration. -/
theorem parse_ofCodes (codes : Codes) : parse (.ofCodes codes) = ofCompact codes := by
  have hcodes := Value.codes?_ofCodes codes
  rcases Value.ofCodes_isText codes with ⟨s, hs⟩ | ⟨ns, hs⟩
  · rw [hs] at hcodes ⊢
    rw [parse, hcodes]
    all_goals simp
  · rw [hs] at hcodes ⊢
    rw [parse, hcodes]
    all_goals simp

/-- A text that is read is declared by its parts. -/
theorem ofCompact_of_read? {codes : Codes} {form : CompactForm}
    (h : CompactForm.read? codes = some form) :
    ofCompact codes = (Kind.parseToken form.name >>= fun k =>
      coerce k form.array (form.default.elim .null .ofCodes) >>= fun default =>
        .ok (ofParts k form default)) := by
  rw [ofCompact, h]
  rfl

/-- The declaration that a spelled text gives. -/
theorem ofCompact_of_spelled {codes : Codes} {form : CompactForm} {k : Kind} {default : Value}
    (h : form.Spelled codes) (hk : form.Names k) (hdefault : form.Gives k default) :
    ofCompact codes = .ok (ofParts k form default) := by
  have htoken : Kind.parseToken form.name = .ok k := by
    rw [Kind.parseToken, CompactForm.ofToken?_name h.name, hk]
  rw [ofCompact_of_read? (CompactForm.read?_of_spelled h), htoken, ok_bind,
    (CompactForm.coerce_default_eq_ok_iff form k default).2 hdefault, ok_bind]

theorem ofCompact_eq_ok_iff (codes : Codes) (d : Definition) :
    ofCompact codes = .ok d ↔ ∃ (form : CompactForm) (k : Kind) (default : Value),
      form.Spelled codes ∧ form.Names k ∧ form.Gives k default ∧ d = ofParts k form default := by
  constructor
  · intro h
    obtain ⟨form, k, default, hform, htoken, hdefault, rfl⟩ := ofCompact_eq_ok h
    have hspelled := CompactForm.spelled_of_read? hform
    refine ⟨form, k, default, hspelled, ?_,
      (CompactForm.coerce_default_eq_ok_iff form k default).1 hdefault, rfl⟩
    rw [Kind.parseToken, CompactForm.ofToken?_name hspelled.name] at htoken
    unfold CompactForm.Names
    split at htoken
    · rename_i k' hk
      rw [hk, Except.ok.inj htoken]
    · simp at htoken
  · rintro ⟨form, k, default, hspelled, hk, hdefault, rfl⟩
    exact ofCompact_of_spelled hspelled hk hdefault

/-- A text that declares nothing is a mistake in a declaration. -/
theorem ofCompact_eq_error {codes : Codes} {fault : Fault} (h : ofCompact codes = .error fault) :
    ∃ cause, fault = .declaration cause := by
  cases hform : CompactForm.read? codes with
  | none =>
      rw [ofCompact, hform] at h
      exact ⟨_, (Except.error.inj h).symm⟩
  | some form =>
      rw [ofCompact_of_read? hform] at h
      rcases bind_eq_error_iff.1 h with htoken | ⟨k, -, h⟩
      · unfold Kind.parseToken at htoken
        split at htoken
        · simp at htoken
        · exact ⟨_, (Except.error.inj htoken).symm⟩
      -- the default of a form that is read is never out of reach
      · obtain ⟨default, hdefault⟩ := form.exists_gives k
        rw [(CompactForm.coerce_default_eq_ok_iff form k default).2 hdefault] at h
        simp at h

/-- A text declares a parameter when it is spelled with the name of a type. It has one spelling, of
which the declaration has the type, the brackets and the default, and is required without a default.
Any other text is a mistake in a declaration. -/
theorem parse_spelled (codes : Codes) :
    ((∃ d, parse (.ofCodes codes) = .ok d) ↔
      ∃ (form : CompactForm) (k : Kind), form.Spelled codes ∧ form.Names k) ∧
    (∀ form form' : CompactForm, form.Spelled codes → form'.Spelled codes → form = form') ∧
    (∀ d, parse (.ofCodes codes) = .ok d ↔ ∃ (form : CompactForm) (k : Kind) (default : Value),
      form.Spelled codes ∧ form.Names k ∧ form.Gives k default ∧ d = ofParts k form default) ∧
    ((∃ d, parse (.ofCodes codes) = .ok d) ∨
      ∃ cause, parse (.ofCodes codes) = .error (.declaration cause)) := by
  rw [parse_ofCodes]
  refine ⟨⟨?_, ?_⟩, fun form form' h h' => h.unique h', ofCompact_eq_ok_iff codes, ?_⟩
  · rintro ⟨d, hd⟩
    obtain ⟨form, k, -, hspelled, hk, -⟩ := (ofCompact_eq_ok_iff codes d).1 hd
    exact ⟨form, k, hspelled, hk⟩
  · rintro ⟨form, k, hspelled, hk⟩
    obtain ⟨default, hdefault⟩ := form.exists_gives k
    exact ⟨_, ofCompact_of_spelled hspelled hk hdefault⟩
  · cases h : ofCompact codes with
    | ok d => exact Or.inl ⟨d, rfl⟩
    | error fault =>
        obtain ⟨cause, rfl⟩ := ofCompact_eq_error h
        exact Or.inr ⟨cause, rfl⟩

/-- Blanks, a name in another case, brackets, and a default that is split at its comma. -/
theorem parse_spelled_counts :
    (⟨codes "INT", true, some (codes "1,x")⟩ : CompactForm).Spelled
        (codes "\u2003INT\t[] (1,x)\n") ∧
      parse (.ofCodes (codes "\u2003INT\t[] (1,x)\n")) =
        .ok (ofParts .integer ⟨codes "INT", true, some (codes "1,x")⟩
          (.list [.int 1, .null])) ∧
      ∀ form : CompactForm, form.Spelled (codes "\u2003INT\t[] (1,x)\n") →
        form = ⟨codes "INT", true, some (codes "1,x")⟩ := by
  have hspelled : (⟨codes "INT", true, some (codes "1,x")⟩ : CompactForm).Spelled
      (codes "\u2003INT\t[] (1,x)\n") := by decide
  have hk : (⟨codes "INT", true, some (codes "1,x")⟩ : CompactForm).Names .integer :=
    congrArg Kind.ofName? (lower_ascii rfl)
  refine ⟨hspelled, ?_, ?_⟩
  · exact ((parse_spelled _).2.2.1 _).2 ⟨_, .integer, _, hspelled, hk, rfl, rfl⟩
  · exact fun form h => (parse_spelled _).2.1 form _ h hspelled

end Definition

end ParamGate
