import ParamGate.Proofs.Text.Case
import ParamGate.Text.Trim

/-!
# Case in ASCII

In ASCII the case mappings move the letters and keep everything else (`lower_ascii`,
`upper_ascii`): the tables begin with the run of these letters, and all their other entries are for
characters beyond ASCII. Names of types and methods are compared by these lemmas, with no look
into the tables.
-/

namespace ParamGate.Text

/-- The first run has the letters of ASCII, and no other entry is for a character of ASCII. -/
structure AsciiFirst (runs : Array CaseRun) (expansions : Array (Nat × List Nat))
    (letters : CaseRun) : Prop where
  head : runs.toList.head? = some letters
  stride : letters.stride = 1
  runs : runs.toList.tail.all (fun r => Nat.ble 128 r.first) = true
  expansions : expansions.toList.all (fun e => Nat.ble 128 e.1) = true

theorem asciiFirst_lower : AsciiFirst lowerRuns lowerExpansions ⟨65, 90, 1, 32⟩ where
  head := rfl
  stride := rfl
  runs := by decide +kernel
  expansions := rfl

theorem asciiFirst_upper : AsciiFirst upperRuns upperExpansions ⟨97, 122, 1, -32⟩ where
  head := rfl
  stride := rfl
  runs := by decide +kernel
  expansions := rfl

/-- A letter of ASCII is moved to the other case, and the other characters of ASCII are kept. -/
theorem AsciiFirst.mapCase_eq {runs : Array CaseRun} {expansions : Array (Nat × List Nat)}
    {letters : CaseRun} (h : AsciiFirst runs expansions letters) {c : Char} (hc : c.toNat < 128) :
    mapCase runs expansions c =
      [if letters.first ≤ c.toNat ∧ c.toNat ≤ letters.last then Char.ofNat (letters.image c.toNat)
        else c] := by
  obtain ⟨rest, hruns⟩ := List.head?_eq_some_iff.1 h.head
  have hrest : rest.find? (fun r => decide (r.first ≤ c.toNat) && decide (c.toNat ≤ r.last) &&
      (c.toNat - r.first) % r.stride == 0) = none := by
    have hall := h.runs
    rw [hruns, List.tail_cons] at hall
    rw [List.find?_eq_none]
    intro r hr
    have hfirst := Nat.le_of_ble_eq_true (List.all_eq_true.1 hall r hr)
    simp [show ¬ r.first ≤ c.toNat by omega]
  have hexpansions : expansions.find? (fun e => e.1 == c.toNat) = none := by
    rw [← Array.find?_toList, List.find?_eq_none]
    intro e he heq
    have hfirst := Nat.le_of_ble_eq_true (List.all_eq_true.1 h.expansions e he)
    have hcode := beq_iff_eq.1 heq
    omega
  unfold mapCase mapRun?
  rw [← Array.find?_toList, hruns, List.find?_cons, h.stride, Nat.mod_one, hrest, hexpansions]
  by_cases hletter : letters.first ≤ c.toNat ∧ c.toNat ≤ letters.last
  · simp [hletter, CaseRun.image]
  · rw [if_neg hletter]
    simp [← Bool.decide_and, hletter]

/-- A property of the characters of ASCII, checked one by one. -/
theorem ascii_forall {p : Char → Prop} (h : ∀ n < 128, p (Char.ofNat n)) :
    ∀ c : Char, c.toNat < 128 → p c := by
  intro c hc
  have hn := h c.toNat hc
  rwa [Char.ofNat_toNat] at hn

theorem mapCase_lower_ascii {c : Char} (hc : c.toNat < 128) :
    mapCase lowerRuns lowerExpansions c = [c.toLower] := by
  have hchars : ∀ c : Char, c.toNat < 128 → (if 65 ≤ c.toNat ∧ c.toNat ≤ 90 then
      Char.ofNat (CaseRun.image ⟨65, 90, 1, 32⟩ c.toNat) else c) = c.toLower :=
    ascii_forall (by decide)
  rw [asciiFirst_lower.mapCase_eq hc, hchars c hc]

theorem mapCase_upper_ascii {c : Char} (hc : c.toNat < 128) :
    mapCase upperRuns upperExpansions c = [c.toUpper] := by
  have hchars : ∀ c : Char, c.toNat < 128 → (if 97 ≤ c.toNat ∧ c.toNat ≤ 122 then
      Char.ofNat (CaseRun.image ⟨97, 122, 1, -32⟩ c.toNat) else c) = c.toUpper :=
    ascii_forall (by decide)
  rw [asciiFirst_upper.mapCase_eq hc, hchars c hc]

/-- The characters are all of ASCII. -/
def isAscii (cs : List Char) : Bool := cs.all fun c => Nat.blt c.toNat 128

theorem isAscii_cons {c : Char} {cs : List Char} (h : isAscii (c :: cs) = true) :
    c.toNat < 128 ∧ isAscii cs = true := by
  rw [isAscii, List.all_cons, Bool.and_eq_true, Nat.blt_eq] at h
  exact h

theorem lowerAfter_ascii {cs : List Char} (h : isAscii cs = true) (before : List Char) :
    lowerAfter before cs = cs.map Char.toLower := by
  induction cs generalizing before with
  | nil => rfl
  | cons c cs ih =>
      obtain ⟨hc, hcs⟩ := isAscii_cons h
      -- the capital sigma is beyond ASCII
      have hsigma : (c == 'Σ') = false := by
        rw [beq_eq_false_iff_ne]
        rintro rfl
        simp at hc
      rw [lowerAfter, hsigma, mapCase_lower_ascii hc, ih hcs]
      rfl

/-- Lower case of a text in ASCII. -/
theorem lower_ascii {cs : List Char} (h : isAscii cs = true) :
    lower (String.ofList cs) = String.ofList (cs.map Char.toLower) := by
  rw [lower, String.toList_ofList, lowerAfter_ascii h]

/-- Upper case of a text in ASCII. -/
theorem upper_ascii {cs : List Char} (h : isAscii cs = true) :
    upper (String.ofList cs) = String.ofList (cs.map Char.toUpper) := by
  have hchars : cs.flatMap (mapCase upperRuns upperExpansions) = cs.map Char.toUpper := by
    induction cs with
    | nil => rfl
    | cons c cs ih =>
        obtain ⟨hc, hcs⟩ := isAscii_cons h
        rw [List.flatMap_cons, mapCase_upper_ascii hc, ih hcs]
        rfl
  rw [upper, String.toList_ofList, hchars]

/-- A name in ASCII is read without the blanks around it and in lower case. -/
theorem lower_trim_ascii {cs : List Char} (h : isAscii (trimBy isBlank cs) = true) :
    lower (trim (String.ofList cs)) = String.ofList ((trimBy isBlank cs).map Char.toLower) := by
  rw [trim, String.toList_ofList, lower_ascii h]

example : lower (trim " True ") = "true" := lower_trim_ascii rfl

end ParamGate.Text
