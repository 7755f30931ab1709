import ParamGate.Proofs.Binary64.Rounding
import ParamGate.Proofs.Text.Digits

/-!
# The shortest decimal reads back

The search for the shortest decimal ends with one in the neighbourhood of the number
(`shortest_holds`): the grid of 10^-324, at the latest, has a multiple in every neighbourhood. What
`layout` writes of a decimal is a numeral of that decimal (`numeral_layout`), in each of its four
forms. Together they read the digits of a finite number back as the number (`takeDecimal?_magnitudeText`).
-/

namespace ParamGate.Binary64

open Text

/-! ## The search -/

section Search

variable {units n : Nat} {k : Int}

/-- A multiple that is chosen lies in the neighbourhood. -/
theorem holds_of_nearestMultiple? (h : nearestMultiple? units k = some n) :
    (neighbourhood units).holds (10 ^ (-k).toNat) (n * 10 ^ k.toNat * oneUnits) = true := by
  have hgrid (m : Nat) : m * 10 ^ k.toNat * oneUnits = m * (oneUnits * 10 ^ k.toNat) := by
    rw [Nat.mul_assoc, Nat.mul_comm oneUnits]
  rw [hgrid]
  unfold nearestMultiple? at h
  simp only [Nat.pow_eq] at h
  generalize units * 10 ^ (-k).toNat / (oneUnits * 10 ^ k.toNat) = q at h
  split at h
  -- of two multiples in the neighbourhood either may be chosen
  · rename_i hlow hhigh
    have hor : n = q ∨ n = q + 1 := by
      revert h
      split
      · simp only [Option.some.injEq]; omega
      split
      · simp only [Option.some.injEq]; omega
      split
      · simp only [Option.some.injEq]; omega
      · simp only [Option.some.injEq]; omega
    rcases hor with rfl | rfl
    · exact hlow
    · exact hhigh
  · rename_i hlow _
    obtain rfl := Option.some.inj h
    exact hlow
  · rename_i _ hhigh
    obtain rfl := Option.some.inj h
    exact hhigh
  · simp at h

theorem nearestMultiple?_ne_none (h : (neighbourhood units).holds (10 ^ (-k).toNat)
    (units * 10 ^ (-k).toNat / (oneUnits * 10 ^ k.toNat) * (oneUnits * 10 ^ k.toNat)) = true) :
    nearestMultiple? units k ≠ none := by
  unfold nearestMultiple?
  simp only [Nat.pow_eq, h]
  split
  · split
    · simp
    split
    · simp
    split
    · simp
    · simp
  · simp
  · simp_all
  · simp_all

/-- The finest grid has a multiple in every neighbourhood. -/
theorem nearestMultiple?_finest (hr : Representable units) (hpos : 0 < units) :
    nearestMultiple? units (-(finestExponent : Int)) ≠ none := by
  apply nearestMultiple?_ne_none
  have hunit := two_mul_oneUnits_le
  have hscale : (-(-(finestExponent : Int))).toNat = finestExponent := by simp
  have hgrid : oneUnits * 10 ^ (-(finestExponent : Int)).toNat = oneUnits := by simp
  rw [hscale, hgrid]
  generalize 10 ^ finestExponent = scale at hunit
  -- the multiple below the number is less than one multiple away from it
  have hdiv := Nat.div_add_mod (units * scale) oneUnits
  have hmod := Nat.mod_lt (units * scale) oneUnits_pos
  rw [Nat.mul_comm] at hdiv
  obtain ⟨-, hlow, hhigh, -⟩ := neighbourhood_ends hr hpos
  have hlow := Nat.mul_le_mul_right scale hlow
  have hhigh := Nat.mul_lt_mul_of_pos_right hhigh (show 0 < scale by have := oneUnits_pos; omega)
  rw [Nat.add_mul, Nat.mul_assoc 4] at hlow
  rw [Nat.mul_assoc 4] at hhigh
  rw [holds_iff]
  refine ⟨by omega, by omega, fun _ => ⟨by omega, by omega⟩⟩

/-- The search stops at the first grid that has a multiple, if it reaches one. -/
theorem shortestFrom_eq (fuel step : Nat) (hstep : step < fuel)
    (h : nearestMultiple? units (k - step) ≠ none) :
    nearestMultiple? units (shortestFrom units k fuel).2 =
      some (shortestFrom units k fuel).1 := by
  induction fuel generalizing k step with
  | zero => omega
  | succ fuel ih =>
      unfold shortestFrom
      split
      · rename_i n hn
        exact hn
      · rename_i hn
        cases step with
        | zero => simp [hn] at h
        | succ step =>
            refine ih step (by omega) ?_
            have hk : k - 1 - (step : Int) = k - (step + 1 : Nat) := by omega
            rw [hk]
            exact h

/-- The shortest decimal of a representable magnitude lies in its neighbourhood. -/
theorem shortest_holds (hr : Representable units) (hpos : 0 < units) :
    (neighbourhood units).holds (10 ^ (-(shortest units).2).toNat)
      ((shortest units).1 * 10 ^ (shortest units).2.toNat * oneUnits) = true := by
  refine holds_of_nearestMultiple? (shortestFrom_eq 633 632 (by decide) ?_)
  exact nearestMultiple?_finest hr hpos

end Search

/-! ## The forms of a decimal -/

section Layout

variable {whole fraction suffix : List Char}

theorem takeDecimal?_point (negative : Bool) (hw : ∀ c ∈ whole, c.isDigit = true)
    (hne : whole ≠ []) (hf : ∀ c ∈ fraction, c.isDigit = true)
    (hs : suffix.head?.bind digitValue? = none) :
    takeDecimal? digitValue? negative (whole ++ '.' :: (fraction ++ suffix)) =
      some (ofDecimal negative (ofDigits (digitValues (whole ++ fraction)))
        ((takeExponent digitValue? suffix).1 - fraction.length),
        (takeExponent digitValue? suffix).2) := by
  have hvalues : (digitValues whole).isEmpty = false := by
    cases whole with
    | nil => exact absurd rfl hne
    | cons c whole => rfl
  have hpoint : ('.' :: (fraction ++ suffix)).head?.bind digitValue? = none := by
    show digitValue? '.' = none
    decide
  unfold takeDecimal?
  simp only [takeDigits_append hw hpoint, takeDigits_append hf hs, hvalues, Bool.false_and,
    Bool.false_eq_true, if_false, ← digitValues_append, length_digitValues]

theorem takeDecimal?_whole (negative : Bool) (hw : ∀ c ∈ whole, c.isDigit = true)
    (hne : whole ≠ []) (hs : suffix.head?.bind digitValue? = none)
    (hpoint : suffix.head? ≠ some '.') :
    takeDecimal? digitValue? negative (whole ++ suffix) =
      some (ofDecimal negative (ofDigits (digitValues whole)) (takeExponent digitValue? suffix).1,
        (takeExponent digitValue? suffix).2) := by
  have hvalues : (digitValues whole).isEmpty = false := by
    cases whole with
    | nil => exact absurd rfl hne
    | cons c whole => rfl
  unfold takeDecimal?
  simp only [takeDigits_append hw hs]
  split
  · simp at hpoint
  · simp [hvalues]

/-- A written exponent is read as it is. -/
theorem takeExponent_written {mark : Char} {negative : Bool} (zeros n : Nat)
    (hmark : mark = '-' ∧ negative = true ∨ mark = '+' ∧ negative = false) :
    takeExponent digitValue? ('e' :: mark :: (List.replicate zeros '0' ++ Nat.toDigits 10 n)) =
      (withSign negative n, []) := by
  have hsign : takeSign (mark :: (List.replicate zeros '0' ++ Nat.toDigits 10 n)) =
      (negative, List.replicate zeros '0' ++ Nat.toDigits 10 n) := by
    rcases hmark with ⟨rfl, rfl⟩ | ⟨rfl, rfl⟩
    · rfl
    · rfl
  have hdigits : ∀ c ∈ List.replicate zeros '0' ++ Nat.toDigits 10 n, c.isDigit = true := by
    intro c hc
    rcases List.mem_append.1 hc with hc | hc
    · exact isDigit_of_mem_zeros hc
    · exact isDigit_toDigits hc
  have htake := takeDigits_all hdigits
  have hvalue : ofDigits (digitValues (List.replicate zeros '0' ++ Nat.toDigits 10 n)) = n := by
    rw [ofDigits_zeros, ofDigits_toDigits]
  have hlength : 0 < (digitValues (List.replicate zeros '0' ++ Nat.toDigits 10 n)).length := by
    rw [length_digitValues, List.length_append]
    exact Nat.add_pos_right _ Nat.length_toDigits_pos
  rw [takeExponent, if_pos (Or.inl rfl)]
  simp only [hsign, htake]
  cases hds : digitValues (List.replicate zeros '0' ++ Nat.toDigits 10 n) with
  | nil => simp [hds] at hlength
  | cons d ds =>
      rw [hds] at hvalue
      exact congrArg (fun m => (withSign negative m, [])) hvalue

/-- What stands behind the digits of a number in the exponential form. -/
def exponentText (e : Int) : String :=
  (if e < 0 then "e-" else "e+") ++ (if e.natAbs < 10 then "0" else "") ++ e.natAbs.repr

theorem exponentText_eq (e : Int) : ∃ mark zeros,
    (exponentText e).toList = 'e' :: mark :: (List.replicate zeros '0' ++ Nat.toDigits 10 e.natAbs) ∧
      (mark = '-' ∧ decide (e < 0) = true ∨ mark = '+' ∧ decide (e < 0) = false) := by
  obtain ⟨zeros, hzeros⟩ : ∃ zeros, (if e.natAbs < 10 then "0" else "").toList =
      List.replicate zeros '0' := by
    split
    · exact ⟨1, rfl⟩
    · exact ⟨0, rfl⟩
  have hrepr : e.natAbs.repr.toList = Nat.toDigits 10 e.natAbs := by
    rw [Nat.repr_eq_ofList_toDigits, String.toList_ofList]
  rw [exponentText, String.toList_append, String.toList_append, hzeros, hrepr]
  split
  · rename_i h
    exact ⟨'-', zeros, rfl, Or.inl ⟨rfl, decide_eq_true h⟩⟩
  · rename_i h
    exact ⟨'+', zeros, rfl, Or.inr ⟨rfl, decide_eq_false h⟩⟩

theorem takeExponent_exponentText (e : Int) :
    takeExponent digitValue? (exponentText e).toList = (e, []) := by
  obtain ⟨mark, zeros, htext, hmark⟩ := exponentText_eq e
  rw [htext, takeExponent_written zeros e.natAbs hmark, withSign_natAbs]

theorem head?_exponentText (e : Int) : (exponentText e).toList.head? = some 'e' := by
  obtain ⟨mark, zeros, htext, -⟩ := exponentText_eq e
  rw [htext, List.head?_cons]

/-- Characters that start with a digit and are read, all of them, as a decimal. -/
structure Numeral (cs : List Char) (digits : Nat) (exponent : Int) : Prop where
  front : ∃ c rest, cs = c :: rest ∧ c.isDigit = true
  value : ∀ negative, takeDecimal? digitValue? negative cs =
    some (ofDecimal negative digits exponent, [])

theorem front_append (hw : ∀ c ∈ whole, c.isDigit = true) (hne : whole ≠ []) (rest : List Char) :
    ∃ c cs, whole ++ rest = c :: cs ∧ c.isDigit = true := by
  obtain ⟨c, cs, rfl⟩ := List.exists_cons_of_ne_nil hne
  exact ⟨c, cs ++ rest, rfl, hw c List.mem_cons_self⟩

/-- Digits on both sides of a point. -/
theorem numeral_fixed (hw : ∀ c ∈ whole, c.isDigit = true) (hne : whole ≠ [])
    (hf : ∀ c ∈ fraction, c.isDigit = true) :
    Numeral (whole ++ '.' :: fraction) (ofDigits (digitValues (whole ++ fraction)))
      (-fraction.length) := by
  refine ⟨front_append hw hne _, ?_⟩
  intro negative
  have hend : (([] : List Char).head?.bind digitValue?) = none := rfl
  have h := takeDecimal?_point negative hw hne hf hend
  rwa [List.append_nil, takeExponent, Int.zero_sub] at h

/-- Digits behind a point, which is left out if there are none. -/
def behindPoint (cs : List Char) : List Char := if cs = [] then [] else '.' :: cs

/-- One digit, the others after a point, and an exponent. -/
theorem numeral_exponential {d : Char} {tail : List Char}
    (h : ∀ c ∈ d :: tail, c.isDigit = true) (e : Int) :
    Numeral ([d] ++ behindPoint tail ++ (exponentText e).toList)
      (ofDigits (digitValues (d :: tail))) (e - tail.length) := by
  have hd : ∀ c ∈ [d], c.isDigit = true := by
    intro c hc
    rw [List.mem_singleton.1 hc]
    exact h d List.mem_cons_self
  have hsuffix : (exponentText e).toList.head?.bind digitValue? = none := by
    rw [head?_exponentText]
    decide
  rw [List.append_assoc]
  refine ⟨front_append hd (List.cons_ne_nil d []) _, ?_⟩
  intro negative
  cases tail with
  | nil =>
      have hpoint : (exponentText e).toList.head? ≠ some '.' := by simp [head?_exponentText]
      have hread := takeDecimal?_whole negative hd (List.cons_ne_nil d []) hsuffix hpoint
      rw [takeExponent_exponentText] at hread
      rw [List.length_nil, Int.natCast_zero, Int.sub_zero]
      exact hread
  | cons t ts =>
      have hf : ∀ c ∈ t :: ts, c.isDigit = true := fun c hc => h c (List.mem_cons_of_mem d hc)
      have hread := takeDecimal?_point negative hd (List.cons_ne_nil d []) hf hsuffix
      rwa [takeExponent_exponentText] at hread

/-- Zeros between the point and the digits. -/
theorem numeral_zeros_before (hw : ∀ c ∈ whole, c.isDigit = true) (zeros : Nat) :
    Numeral ('0' :: '.' :: List.replicate zeros '0' ++ whole) (ofDigits (digitValues whole))
      (-(zeros + whole.length : Nat)) := by
  have hzero : ∀ c ∈ ['0'], c.isDigit = true := List.forall_mem_singleton.2 rfl
  have hf : ∀ c ∈ List.replicate zeros '0' ++ whole, c.isDigit = true := by
    intro c hc
    rcases List.mem_append.1 hc with hc | hc
    · exact isDigit_of_mem_zeros hc
    · exact hw c hc
  have h := numeral_fixed hzero (List.cons_ne_nil _ []) hf
  rwa [List.length_append, List.length_replicate, ← List.replicate_one, ofDigits_zeros,
    ofDigits_zeros] at h

/-- Zeros between the digits and the point, and one more behind it. -/
theorem numeral_zeros_after (hw : ∀ c ∈ whole, c.isDigit = true) (hne : whole ≠ []) (zeros : Nat) :
    Numeral (whole ++ List.replicate zeros '0' ++ ['.', '0'])
      (ofDigits (digitValues (whole ++ List.replicate (zeros + 1) '0'))) (-1) := by
  have hall : ∀ c ∈ whole ++ List.replicate zeros '0', c.isDigit = true := by
    intro c hc
    rcases List.mem_append.1 hc with hc | hc
    · exact hw c hc
    · exact isDigit_of_mem_zeros hc
  have hf : ∀ c ∈ ['0'], c.isDigit = true := List.forall_mem_singleton.2 rfl
  have hzero : whole ++ List.replicate zeros '0' ++ ['0'] =
      whole ++ List.replicate (zeros + 1) '0' := by
    rw [List.append_assoc, ← List.replicate_succ']
  have h := numeral_fixed hall (by simp [hne]) hf
  rwa [hzero] at h

/-- A point among the digits. -/
theorem numeral_point (hw : ∀ c ∈ whole, c.isDigit = true) (hne : whole ≠ []) {point : Nat}
    (hpoint : 0 < point) :
    Numeral (whole.take point ++ '.' :: whole.drop point) (ofDigits (digitValues whole))
      (-(whole.length - point : Nat)) := by
  have htake : whole.take point ≠ [] := by
    rw [Ne, List.take_eq_nil_iff]
    rintro (hzero | hnil)
    · omega
    · exact hne hnil
  have hdrop : ∀ c ∈ whole.drop point, c.isDigit = true := fun c hc =>
    hw c (List.mem_of_mem_drop hc)
  have h := numeral_fixed (fun c hc => hw c (List.mem_of_mem_take hc)) htake hdrop
  rwa [List.take_append_drop, List.length_drop] at h

/-- A decimal is written as a numeral of itself, perhaps with more zeros. -/
theorem numeral_layout (n : Nat) (k : Int) :
    ∃ zeros : Nat, Numeral (layout n k).toList (n * 10 ^ zeros) (k - zeros) := by
  have hdigits : ∀ c ∈ Nat.toDigits 10 n, c.isDigit = true := fun c hc => isDigit_toDigits hc
  have hvalue := ofDigits_toDigits n
  have hzeros := ofDigits_toDigits_zeros n
  have hne : Nat.toDigits 10 n ≠ [] := Nat.toDigits_ne_nil
  unfold layout
  simp only
  generalize Nat.toDigits 10 n = ds at hdigits hne hvalue hzeros
  -- all forms but the one with zeros behind the digits keep the digits as they are
  have kept {cs : List Char} {e : Int} (he : e = k)
      (h : Numeral cs (ofDigits (digitValues ds)) e) :
      ∃ zeros : Nat, Numeral cs (n * 10 ^ zeros) (k - zeros) := by
    refine ⟨0, ?_⟩
    rw [hvalue, he] at h
    rwa [Nat.pow_zero, Nat.mul_one, Int.natCast_zero, Int.sub_zero]
  split
  · generalize he : k + (ds.length : Int) - 1 = e
    obtain ⟨d, tail, rfl⟩ := List.exists_cons_of_ne_nil hne
    have hk : e - (tail.length : Int) = k := by
      rw [List.length_cons] at he
      omega
    have htext (cs : String) : cs ++ (if e < 0 then "e-" else "e+") ++
        (if e.natAbs < 10 then "0" else "") ++ e.natAbs.repr = cs ++ exponentText e := by
      simp only [exponentText, String.append_assoc]
    have h := numeral_exponential hdigits e
    rw [htext, String.toList_append, String.toList_ofList]
    cases tail with
    | nil => exact kept hk h
    | cons t ts => exact kept hk h
  split
  · rw [String.toList_ofList]
    exact kept (by omega) (numeral_zeros_before hdigits _)
  split
  · refine ⟨k.toNat + 1, ?_⟩
    have h := numeral_zeros_after hdigits hne k.toNat
    have hk : (-1 : Int) = k - (k.toNat + 1 : Nat) := by omega
    rw [hzeros, hk] at h
    rw [String.toList_ofList]
    exact h
  · rw [String.toList_ofList]
    exact kept (by omega) (numeral_point hdigits hne (by omega))

end Layout

/-! ## Numbers -/

/-- A magnitude as it is written. -/
def magnitudeText (units : Nat) : String :=
  if units = 0 then "0.0" else layout (shortest units).1 (shortest units).2

theorem toList_text_finite (negative : Bool) (units : Nat) :
    (text (.finite negative units)).toList = signed negative (magnitudeText units).toList := by
  cases negative with
  | true => exact String.toList_append
  | false => rfl

/-- Two ways to write one decimal have the same value in a neighbourhood. -/
theorem holds_shift (r : Neighbourhood) (n zeros : Nat) (k : Int) :
    r.holds (10 ^ (-k).toNat) (n * 10 ^ k.toNat * oneUnits) = true ↔
      r.holds (10 ^ (-(k - zeros)).toNat)
        (n * 10 ^ zeros * 10 ^ (k - zeros).toNat * oneUnits) = true := by
  have hpow : 10 ^ k.toNat * 10 ^ (-(k - zeros)).toNat =
      10 ^ zeros * 10 ^ (k - zeros).toNat * 10 ^ (-k).toNat := by
    rw [← Nat.pow_add, ← Nat.pow_add, ← Nat.pow_add]
    congr 1
    omega
  refine holds_congr ?_ (Nat.pow_pos (by decide)) (Nat.pow_pos (by decide))
  calc n * 10 ^ k.toNat * oneUnits * 10 ^ (-(k - zeros)).toNat
      = n * oneUnits * (10 ^ k.toNat * 10 ^ (-(k - zeros)).toNat) := by ring
    _ = n * 10 ^ zeros * 10 ^ (k - zeros).toNat * oneUnits * 10 ^ (-k).toNat := by
        rw [hpow]
        ring

/-- The digits of a representable magnitude start with a digit and are read back as it. -/
theorem takeDecimal?_magnitudeText {units : Nat} (hr : Representable units) :
    (∃ c rest, (magnitudeText units).toList = c :: rest ∧ c.isDigit = true) ∧
      ∀ negative, takeDecimal? digitValue? negative (magnitudeText units).toList =
        some (.finite negative units, []) := by
  unfold magnitudeText
  split
  · rename_i hzero
    subst hzero
    exact ⟨⟨'0', ['.', '0'], rfl, rfl⟩, fun negative => rfl⟩
  · rename_i hne
    have hpos := Nat.pos_of_ne_zero hne
    obtain ⟨zeros, hfront, hvalue⟩ := numeral_layout (shortest units).1 (shortest units).2
    have hholds := (holds_shift _ _ zeros _).1 (shortest_holds hr hpos)
    refine ⟨hfront, ?_⟩
    intro negative
    rw [hvalue, ofDecimal_of_holds hr hpos hholds]

end ParamGate.Binary64
