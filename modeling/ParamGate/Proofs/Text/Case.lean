import ParamGate.Text.Case

/-!
# Upper case is final

Upper case leaves alone what it gives (`upper_upper`), so a method that is brought to upper case
more than once is the method that was brought to it once. The reason lies in the tables alone: no
run and no expansion has an entry for a code point that another one gives. Runs are compared as
intervals, and by parity where both cover every other code point only (`CaseRun.apart`).
-/

namespace ParamGate.Text

/-- What a run gives for the code point `n`. -/
def CaseRun.image (r : CaseRun) (n : Nat) : Nat := ((n : Int) + r.offset).toNat

/-- The run has an entry for the code point `n`. -/
def CaseRun.Covers (r : CaseRun) (n : Nat) : Prop :=
  r.first ≤ n ∧ n ≤ r.last ∧ (n - r.first) % r.stride = 0

/-- The interval of what a run gives lies outside an interval. -/
def CaseRun.outside (r : CaseRun) (first last : Nat) : Bool :=
  Nat.blt (r.image r.last) first || Nat.blt last (r.image r.first)

/-- Nothing that the first run gives is covered by the second, as their ends and strides show. -/
def CaseRun.apart (r s : CaseRun) : Bool :=
  r.outside s.first s.last ||
    (Nat.beq s.stride 2 && (Nat.beq r.first r.last || Nat.beq r.stride 2) &&
      Nat.beq ((r.image r.first + s.first) % 2) 1)

/-- Upper case has no entry for the code point `n`. -/
def IsUpper (n : Nat) : Prop :=
  (∀ r ∈ upperRuns.toList, ¬ r.Covers n) ∧ ∀ e ∈ upperExpansions.toList, e.1 ≠ n

/-! ## The tables -/

theorem upperRuns_start :
    upperRuns.toList.all (fun r => Nat.ble (-r.offset).toNat r.first) = true := by
  decide +kernel

theorem upperRuns_apart :
    upperRuns.toList.all (fun r => upperRuns.toList.all fun s => r.apart s) = true := by
  decide +kernel

theorem upperRuns_expansions :
    upperRuns.toList.all (fun r => upperExpansions.toList.all fun e => r.outside e.1 e.1) =
      true := by
  decide +kernel

theorem upperExpansions_runs :
    upperExpansions.toList.all (fun e => e.2.all fun n => upperRuns.toList.all fun s =>
      Nat.blt n s.first || Nat.blt s.last n || !Nat.beq ((n - s.first) % s.stride) 0) = true := by
  decide +kernel

theorem upperExpansions_apart :
    upperExpansions.toList.all (fun e => e.2.all fun n =>
      upperExpansions.toList.all fun f => !Nat.beq f.1 n) = true := by
  decide +kernel

section Images

variable {r s : CaseRun} {n : Nat}

theorem CaseRun.image_le_image {m : Nat} (h : n ≤ m) : r.image n ≤ r.image m := by
  unfold image
  omega

/-- What lies outside an interval has no part in it. -/
theorem CaseRun.not_mem_of_outside {first last : Nat} (h : r.outside first last = true)
    (hn : r.Covers n) : ¬ (first ≤ r.image n ∧ r.image n ≤ last) := by
  obtain ⟨hfirst, hlast, -⟩ := hn
  have hlow : r.image r.first ≤ r.image n := image_le_image hfirst
  have hhigh : r.image n ≤ r.image r.last := image_le_image hlast
  simp only [outside, Bool.or_eq_true, Nat.blt_eq] at h
  omega

/-- Runs that are apart: what the first gives is not covered by the second. -/
theorem CaseRun.not_covers_image (hr : Nat.ble (-r.offset).toNat r.first = true)
    (h : r.apart s = true) (hn : r.Covers n) : ¬ s.Covers (r.image n) := by
  rintro ⟨hlow, hhigh, hstride⟩
  have hr' : (-r.offset).toNat ≤ r.first := Nat.le_of_ble_eq_true hr
  simp only [apart, Bool.or_eq_true, Bool.and_eq_true, Nat.beq_eq] at h
  rcases h with h | ⟨⟨hs, hpoint⟩, hparity⟩
  · exact not_mem_of_outside h hn ⟨hlow, hhigh⟩
  -- what is given has the parity of the first image, which is not that of the second run
  · obtain ⟨hfirst, hlast, hn⟩ := hn
    rw [hs] at hstride
    have hsame : (r.image n + r.image r.first) % 2 = 0 := by
      rcases hpoint with hpoint | hpoint
      · have he : n = r.first := by omega
        rw [he]
        omega
      · rw [hpoint] at hn
        unfold image
        omega
    omega

theorem isUpper_image (hr : r ∈ upperRuns.toList) (hn : r.Covers n) : IsUpper (r.image n) := by
  have hstart := List.all_eq_true.1 upperRuns_start r hr
  have hruns := List.all_eq_true.1 (List.all_eq_true.1 upperRuns_apart r hr)
  have hexpansions := List.all_eq_true.1 (List.all_eq_true.1 upperRuns_expansions r hr)
  constructor
  · intro s hs
    exact CaseRun.not_covers_image hstart (hruns s hs) hn
  · intro e he heq
    apply CaseRun.not_mem_of_outside (hexpansions e he) hn
    omega

theorem isUpper_of_expansion {e : Nat × List Nat} (he : e ∈ upperExpansions.toList)
    (hn : n ∈ e.2) : IsUpper n := by
  have hpoints := List.all_eq_true.1 upperExpansions_runs e he
  have hruns := List.all_eq_true.1 (List.all_eq_true.1 hpoints n hn)
  have hexpansions :=
    List.all_eq_true.1 (List.all_eq_true.1 (List.all_eq_true.1 upperExpansions_apart e he) n hn)
  constructor
  · rintro s hs ⟨hlow, hhigh, hstride⟩
    have h := hruns s hs
    simp only [Bool.or_eq_true, Nat.blt_eq, Bool.not_eq_true', ← Bool.not_eq_true, Nat.beq_eq] at h
    omega
  · intro f hf heq
    have h := hexpansions f hf
    simp [heq] at h

end Images

/-! ## Characters and texts -/

/-- The first code point has no entry. -/
theorem isUpper_zero : IsUpper 0 := by
  have hruns : upperRuns.toList.all (fun r => Nat.blt 0 r.first) = true := by decide +kernel
  have hexpansions : upperExpansions.toList.all (fun e => Nat.blt 0 e.1) = true := rfl
  constructor
  · rintro r hr ⟨hfirst, -, -⟩
    have h := List.all_eq_true.1 hruns r hr
    rw [Nat.blt_eq] at h
    omega
  · intro e he heq
    have h := List.all_eq_true.1 hexpansions e he
    rw [Nat.blt_eq] at h
    omega

/-- A code point that is no character is taken for the first one. -/
theorem isUpper_toNat {n : Nat} (h : IsUpper n) : IsUpper (Char.ofNat n).toNat := by
  by_cases hn : n.isValidChar
  · have he : (Char.ofNat n).toNat = n := by
      rw [Char.ofNat, dif_pos hn]
      rfl
    rw [he]
    exact h
  · have he : (Char.ofNat n).toNat = 0 := by
      rw [Char.ofNat, dif_neg hn]
      rfl
    rw [he]
    exact isUpper_zero

theorem mapRun?_eq_none {n : Nat} (h : IsUpper n) : mapRun? upperRuns n = none := by
  rw [mapRun?, Option.map_eq_none_iff, ← Array.find?_toList, List.find?_eq_none]
  intro r hr hn
  apply h.1 r hr
  simp only [Bool.and_eq_true, decide_eq_true_eq, beq_iff_eq] at hn
  exact ⟨hn.1.1, hn.1.2, hn.2⟩

theorem mapRun?_eq_some {n m : Nat} (h : mapRun? upperRuns n = some m) :
    ∃ r ∈ upperRuns.toList, r.Covers n ∧ r.image n = m := by
  rw [mapRun?, ← Array.find?_toList] at h
  obtain ⟨r, hr, rfl⟩ := Option.map_eq_some_iff.1 h
  have hn := List.find?_some hr
  simp only [Bool.and_eq_true, decide_eq_true_eq, beq_iff_eq] at hn
  exact ⟨r, List.mem_of_find?_eq_some hr, ⟨hn.1.1, hn.1.2, hn.2⟩, rfl⟩

theorem mapCase_of_isUpper {c : Char} (h : IsUpper c.toNat) :
    mapCase upperRuns upperExpansions c = [c] := by
  have he : upperExpansions.find? (fun e => e.1 == c.toNat) = none := by
    rw [← Array.find?_toList, List.find?_eq_none]
    intro e he hn
    exact h.2 e he (by simpa using hn)
  simp only [mapCase, mapRun?_eq_none h, he]

/-- Upper case has no entry for a character that it gives. -/
theorem isUpper_of_mem_mapCase {c d : Char} (h : d ∈ mapCase upperRuns upperExpansions c) :
    IsUpper d.toNat := by
  unfold mapCase at h
  split at h
  · rename_i n hn
    obtain rfl := List.mem_singleton.1 h
    obtain ⟨r, hr, hc, rfl⟩ := mapRun?_eq_some hn
    exact isUpper_toNat (isUpper_image hr hc)
  · rename_i hruns
    split at h
    · rename_i e he
      obtain ⟨n, hn, rfl⟩ := List.mem_map.1 h
      rw [← Array.find?_toList] at he
      exact isUpper_toNat (isUpper_of_expansion (List.mem_of_find?_eq_some he) hn)
    -- a character without an entry gives itself
    · rename_i hexpansions
      obtain rfl := List.mem_singleton.1 h
      rw [mapRun?, Option.map_eq_none_iff, ← Array.find?_toList, List.find?_eq_none] at hruns
      rw [← Array.find?_toList, List.find?_eq_none] at hexpansions
      constructor
      · rintro r hr ⟨hfirst, hlast, hstride⟩
        exact hruns r hr (by simp [hfirst, hlast, hstride])
      · intro e he heq
        exact hexpansions e he (by simp [heq])

/-- Upper case leaves alone what it gives for a character. -/
theorem flatMap_mapCase (c : Char) : (mapCase upperRuns upperExpansions c).flatMap
    (mapCase upperRuns upperExpansions) = mapCase upperRuns upperExpansions c := by
  have hmap : ∀ d ∈ mapCase upperRuns upperExpansions c,
      mapCase upperRuns upperExpansions d = [d] := by
    intro d hd
    exact mapCase_of_isUpper (isUpper_of_mem_mapCase hd)
  generalize mapCase upperRuns upperExpansions c = ds at hmap
  induction ds with
  | nil => rfl
  | cons d ds ih =>
      rw [List.flatMap_cons, hmap d List.mem_cons_self,
        ih fun e he => hmap e (List.mem_cons_of_mem d he)]
      rfl

/-- Upper case leaves alone what it gives. -/
theorem upper_upper (s : String) : upper (upper s) = upper s := by
  rw [upper, upper, String.toList_ofList, List.flatMap_assoc]
  simp only [flatMap_mapCase]

theorem mapCase_ne_nil (c : Char) : mapCase upperRuns upperExpansions c ≠ [] := by
  have hexpansions : upperExpansions.toList.all (fun e => !e.2.isEmpty) = true := rfl
  intro h
  unfold mapCase at h
  split at h
  · simp at h
  · split at h
    · rename_i e he
      rw [← Array.find?_toList] at he
      have hne := List.all_eq_true.1 hexpansions e (List.mem_of_find?_eq_some he)
      rw [List.map_eq_nil_iff.1 h] at hne
      simp at hne
    · simp at h

/-- Only the empty text has an empty upper case. -/
theorem upper_eq_empty_iff (s : String) : upper s = "" ↔ s = "" := by
  constructor
  · intro h
    have hchars : s.toList.flatMap (mapCase upperRuns upperExpansions) = [] := by
      rw [upper] at h
      simpa using congrArg String.toList h
    rw [List.flatMap_eq_nil_iff] at hchars
    cases hs : s.toList with
    | nil => simpa using hs
    | cons c cs =>
        have hc := hchars c (by simp [hs])
        exact absurd hc (mapCase_ne_nil c)
  · rintro rfl
    rfl

/-! ## Codes -/

/-- The codes of characters in upper case are those of their upper case. -/
theorem flatMap_upperCode_codesOf (cs : List Char) :
    (codesOf cs).flatMap upperCode = codesOf (cs.flatMap (mapCase upperRuns upperExpansions)) := by
  induction cs with
  | nil => rfl
  | cons c cs ih =>
      have hc : upperCode c.toNat = codesOf (mapCase upperRuns upperExpansions c) := by
        rw [upperCode, isSurrogate_toNat, Char.ofNat_toNat]
        rfl
      show upperCode c.toNat ++ (codesOf cs).flatMap upperCode = _
      rw [hc, ih, List.flatMap_cons, codesOf, codesOf, codesOf, List.map_append]

/-- A code in upper case is left as it is: a surrogate, or what upper case gives for a character. -/
theorem flatMap_upperCode (n : Nat) : (upperCode n).flatMap upperCode = upperCode n := by
  cases h : isSurrogate n with
  | true => simp [upperCode, h]
  | false =>
      have hn : upperCode n = codesOf (mapCase upperRuns upperExpansions (Char.ofNat n)) := by
        rw [upperCode, h]
        rfl
      rw [hn, flatMap_upperCode_codesOf, flatMap_mapCase]

theorem upperCodes_upperCodes (ns : Codes) : upperCodes (upperCodes ns) = upperCodes ns := by
  rw [upperCodes, upperCodes, List.flatMap_assoc]
  simp only [flatMap_upperCode]

theorem upperCode_ne_nil (n : Nat) : upperCode n ≠ [] := by
  unfold upperCode
  split
  · simp
  · simpa [codesOf] using mapCase_ne_nil (Char.ofNat n)

theorem upperCodes_eq_nil_iff (ns : Codes) : upperCodes ns = [] ↔ ns = [] := by
  cases ns with
  | nil => simp [upperCodes]
  | cons n ns => simp [upperCodes, upperCode_ne_nil n]

end ParamGate.Text
