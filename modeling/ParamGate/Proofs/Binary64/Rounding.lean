import Mathlib.Tactic.Linarith
import Mathlib.Tactic.Ring
import ParamGate.Binary64.Shortest

/-!
# Rounding to representable numbers

Finite numbers of one binade stand at one distance from each other: `InBinade e` holds of the
magnitudes whose neighbours are 2^`e` units apart, and a magnitude is representable when it is a
multiple of that distance. A quotient that rounds to a finite number gives a representable magnitude
(`ofRatio_representable`), and every quotient in the neighbourhood of a representable magnitude
rounds to it (`ofRatio_of_holds`), also where the neighbourhood reaches into the binade below.
-/

namespace ParamGate.Binary64

/-! ## Binades -/

/-- Magnitudes, in units, whose neighbours are 2^`e` units away. -/
def InBinade (e w : Nat) : Prop := w < 2 ^ (53 + e) ∧ (e = 0 ∨ 2 ^ (52 + e) ≤ w)

theorem inBinade_log2 (w : Nat) : InBinade (w.log2 - 52) w := by
  by_cases hw : w = 0
  · subst hw
    exact ⟨Nat.two_pow_pos _, Or.inl (by simp)⟩
  have hlow := Nat.log2_self_le hw
  have hhigh := Nat.lt_log2_self (n := w)
  refine ⟨?_, ?_⟩
  · exact Nat.lt_of_lt_of_le hhigh (Nat.pow_le_pow_right (by decide) (by omega))
  · by_cases he : w.log2 - 52 = 0
    · exact Or.inl he
    · rw [show 52 + (w.log2 - 52) = w.log2 by omega]
      exact Or.inr hlow

/-- A magnitude lies in one binade only. -/
theorem InBinade.log2_eq {e w : Nat} (h : InBinade e w) : w.log2 - 52 = e := by
  obtain ⟨hhigh, hlow⟩ := h
  by_cases hw : w = 0
  · subst hw
    rcases hlow with rfl | hlow
    · simp
    · exact absurd hlow (by have := Nat.two_pow_pos (52 + e); omega)
  have hlt : w.log2 < 53 + e := (Nat.log2_lt hw).2 hhigh
  rcases hlow with rfl | hlow
  · omega
  · have hle : 52 + e ≤ w.log2 := (Nat.le_log2 hw).2 hlow
    omega

theorem InBinade.spacing_eq {e w : Nat} (h : InBinade e w) : spacing w = 2 ^ e := by
  rw [spacing, h.log2_eq, Nat.pow_eq]

/-- A representable magnitude is a significand times the distance of its binade. -/
theorem Representable.significand {units : Nat} (h : Representable units) :
    ∃ e m, InBinade e units ∧ units = m * 2 ^ e ∧ m < 2 ^ 53 ∧ (e = 0 ∨ 2 ^ 52 ≤ m) := by
  have hb := inBinade_log2 units
  obtain ⟨m, hm⟩ := h.2
  rw [hb.spacing_eq, Nat.mul_comm] at hm
  refine ⟨_, m, hb, hm, ?_, ?_⟩
  · have hlt := hb.1
    rw [Nat.pow_add] at hlt
    exact Nat.lt_of_mul_lt_mul_right (hm.symm.trans_lt hlt)
  · refine hb.2.imp id ?_
    intro hle
    rw [Nat.pow_add] at hle
    exact Nat.le_of_mul_le_mul_right (hle.trans_eq hm) (Nat.two_pow_pos _)

theorem unitsLimit_pos : 0 < unitsLimit := by
  -- the powers that the constants stand for are never computed
  unfold unitsLimit
  generalize 2098 = n
  exact Nat.two_pow_pos n

theorem oneUnits_pos : 0 < oneUnits := by
  unfold oneUnits
  generalize 1074 = n
  exact Nat.two_pow_pos n

/-- Exponent of the finest grid of decimals that is needed. -/
def finestExponent : Nat := 324

theorem two_mul_oneUnits_le : 2 * oneUnits ≤ 10 ^ finestExponent := by decide +kernel

theorem representable_zero : Representable 0 :=
  ⟨unitsLimit_pos, Nat.dvd_zero _⟩

theorem spacing_pos (units : Nat) : 0 < spacing units := Nat.pow_pos (by decide)

/-- Up to the next binade every multiple of the distance is representable. -/
theorem representable_of_multiple {e q : Nat} (hq : q ≤ 2 ^ 53) (hlow : e = 0 ∨ 2 ^ 52 ≤ q)
    (hlimit : q * 2 ^ e < unitsLimit) : Representable (q * 2 ^ e) := by
  refine ⟨hlimit, ?_⟩
  rcases Nat.lt_or_eq_of_le hq with hq | rfl
  · have hb : InBinade e (q * 2 ^ e) := by
      rw [InBinade, Nat.pow_add, Nat.pow_add]
      exact ⟨Nat.mul_lt_mul_of_pos_right hq (Nat.two_pow_pos e),
        hlow.imp id fun h => Nat.mul_le_mul_right _ h⟩
    rw [hb.spacing_eq]
    exact Nat.dvd_mul_left _ _
  -- the end of a binade is the start of the next one, where the distance is twice as large
  · have hb : InBinade (e + 1) (2 ^ 53 * 2 ^ e) := by
      rw [← Nat.pow_add]
      exact ⟨Nat.pow_lt_pow_right (by decide) (by omega),
        Or.inr (Nat.pow_le_pow_right (by decide) (by omega))⟩
    rw [hb.spacing_eq, ← Nat.pow_add]
    exact Nat.pow_dvd_pow 2 (by omega)

/-! ## Rounding to the nearest natural -/

/-- A natural is what a quotient rounds to if the quotient is at most one half away from it, and not
exactly one half if the natural is odd. -/
theorem roundHalfEven_eq {num den m : Nat} (hlow : 2 * (m * den) ≤ 2 * num + den)
    (hhigh : 2 * num ≤ 2 * (m * den) + den)
    (htie : 2 * (m * den) = 2 * num + den ∨ 2 * num = 2 * (m * den) + den → m % 2 = 0)
    (hden : 0 < den) : roundHalfEven num den = m := by
  have hnum : den * (num / den) + num % den = num := Nat.div_add_mod num den
  have hrest : num % den < den := Nat.mod_lt num hden
  unfold roundHalfEven
  simp only
  generalize num / den = q at hnum ⊢
  generalize num % den = r at hnum hrest ⊢
  rw [Nat.mul_comm] at hnum
  -- the quotient lies between `q` and `q + 1`, so only these two can be `m`
  have hle : q ≤ m := by
    by_contra hlt
    have := Nat.mul_le_mul_right den (show m + 1 ≤ q by omega)
    rw [Nat.succ_mul] at this
    omega
  have hge : m ≤ q + 1 := by
    by_contra hlt
    have := Nat.mul_le_mul_right den (show q + 2 ≤ m by omega)
    rw [Nat.add_mul] at this
    omega
  obtain rfl | rfl : m = q ∨ m = q + 1 := by omega
  · split
    · rfl
    · rw [if_neg (by omega), if_pos (htie (Or.inr (by omega)))]
  · have hsucc : (q + 1) * den = q * den + den := Nat.succ_mul q den
    rw [hsucc] at hlow hhigh htie
    rw [if_neg (by omega)]
    split
    · rfl
    · have := htie (Or.inl (by omega))
      rw [if_neg (by omega)]

theorem roundHalfEven_near (num den : Nat) :
    2 * (roundHalfEven num den * den) ≤ 2 * num + den := by
  have hnum : den * (num / den) + num % den = num := Nat.div_add_mod num den
  have hup : (num / den + 1) * den = den * (num / den) + den := by
    rw [Nat.succ_mul, Nat.mul_comm]
  rw [Nat.mul_comm den] at hnum hup
  unfold roundHalfEven
  simp only
  split
  · omega
  split
  · omega
  split
  · omega
  · omega

theorem le_roundHalfEven (num den : Nat) : num / den ≤ roundHalfEven num den := by
  unfold roundHalfEven
  simp only
  split
  · exact Nat.le_refl _
  split
  · exact Nat.le_succ _
  split
  · exact Nat.le_refl _
  · exact Nat.le_succ _

theorem roundHalfEven_le (num den : Nat) : roundHalfEven num den ≤ num / den + 1 := by
  unfold roundHalfEven
  simp only
  split
  · exact Nat.le_succ _
  split
  · exact Nat.le_refl _
  split
  · exact Nat.le_succ _
  · exact Nat.le_refl _

/-! ## Rounding quotients -/

/-- In multiples of the distance, a quotient rounds to a significand or to the end of its binade. -/
theorem InBinade.round {num den e : Nat} (h : InBinade e (num / den)) :
    roundHalfEven num (den * 2 ^ e) ≤ 2 ^ 53 ∧
      (e = 0 ∨ 2 ^ 52 ≤ roundHalfEven num (den * 2 ^ e)) := by
  obtain ⟨hhigh, hlow⟩ := h
  constructor
  · have hquot : num / (den * 2 ^ e) < 2 ^ 53 := by
      rw [← Nat.div_div_eq_div_mul, Nat.div_lt_iff_lt_mul (Nat.two_pow_pos e), ← Nat.pow_add]
      exact hhigh
    exact Nat.le_trans (roundHalfEven_le _ _) hquot
  · refine hlow.imp id ?_
    intro hlow
    have hquot : 2 ^ 52 ≤ num / (den * 2 ^ e) := by
      rw [← Nat.div_div_eq_div_mul, Nat.le_div_iff_mul_le (Nat.two_pow_pos e), ← Nat.pow_add]
      exact hlow
    exact Nat.le_trans hquot (le_roundHalfEven _ _)

/-- A quotient in a binade is rounded to a multiple of the distance there. -/
theorem ofRatio_of_inBinade {num den e : Nat} (h : InBinade e (num * oneUnits / den))
    (negative : Bool) :
    ofRatio negative num den =
      if unitsLimit ≤ roundHalfEven (num * oneUnits) (den * 2 ^ e) * 2 ^ e then
        .infinite negative
      else .finite negative (roundHalfEven (num * oneUnits) (den * 2 ^ e) * 2 ^ e) := by
  unfold ofRatio
  simp only [h.spacing_eq]

/-- What a quotient rounds to is representable and has the sign that was given. -/
theorem ofRatio_representable {negative s : Bool} {num den units : Nat}
    (h : ofRatio negative num den = .finite s units) : s = negative ∧ Representable units := by
  have hb := inBinade_log2 (num * oneUnits / den)
  rw [ofRatio_of_inBinade hb] at h
  generalize (num * oneUnits / den).log2 - 52 = e at hb h
  split at h
  · simp at h
  · rename_i hlimit
    obtain ⟨rfl, rfl⟩ := Binary64.finite.inj h
    obtain ⟨hhigh, hlow⟩ := hb.round
    exact ⟨rfl, representable_of_multiple hhigh hlow (Nat.lt_of_not_le hlimit)⟩

/-! ## Neighbourhoods -/

section Neighbourhood

variable {units num den e m : Nat}

/-- The ends of a neighbourhood, and that they belong to it only if the significand is even. -/
theorem holds_iff (r : Neighbourhood) (scale value : Nat) :
    r.holds scale value = true ↔ r.low4 * scale ≤ 4 * value ∧ 4 * value ≤ r.high4 * scale ∧
      (r.closed = false → r.low4 * scale ≠ 4 * value ∧ 4 * value ≠ r.high4 * scale) := by
  unfold Neighbourhood.holds
  cases r.closed with
  | true => simp
  | false =>
      simp only [Bool.false_eq_true, if_false, Bool.and_eq_true, decide_eq_true_eq, true_imp_iff]
      omega

/-- Whether a quotient lies in a neighbourhood does not depend on how it is written. -/
theorem holds_congr {r : Neighbourhood} {scale value scale' value' : Nat}
    (h : value * scale' = value' * scale) (hs : 0 < scale) (hs' : 0 < scale') :
    r.holds scale value = true ↔ r.holds scale' value' = true := by
  have hle (a : Nat) : a * scale ≤ 4 * value ↔ a * scale' ≤ 4 * value' := by
    rw [← Nat.mul_le_mul_right_iff hs', Nat.mul_assoc 4, h, ← Nat.mul_assoc 4,
      Nat.mul_right_comm a, Nat.mul_le_mul_right_iff hs]
  have hge (a : Nat) : 4 * value ≤ a * scale ↔ 4 * value' ≤ a * scale' := by
    rw [← Nat.mul_le_mul_right_iff hs', Nat.mul_assoc 4, h, ← Nat.mul_assoc 4,
      Nat.mul_right_comm a, Nat.mul_le_mul_right_iff hs]
  rw [holds_iff, holds_iff]
  have := hle r.low4
  have := hge r.low4
  have := hle r.high4
  have := hge r.high4
  constructor
  · rintro ⟨h1, h2, h3⟩
    refine ⟨by omega, by omega, fun hc => ?_⟩
    have := h3 hc
    omega
  · rintro ⟨h1, h2, h3⟩
    refine ⟨by omega, by omega, fun hc => ?_⟩
    have := h3 hc
    omega

/-- What a neighbourhood says in multiples of the distance: a quotient in it is at most one half of
the distance away from the magnitude, exactly one half only from an even significand, and below a
power of two at most one quarter. -/
theorem holds_significand (hb : InBinade e units) (hm : units = m * 2 ^ e) (hpos : 0 < m)
    (h : (neighbourhood units).holds den num = true) :
    2 * (m * (den * 2 ^ e)) ≤ 2 * num + den * 2 ^ e ∧
      2 * num ≤ 2 * (m * (den * 2 ^ e)) + den * 2 ^ e ∧
      (2 * (m * (den * 2 ^ e)) = 2 * num + den * 2 ^ e ∨
        2 * num = 2 * (m * (den * 2 ^ e)) + den * 2 ^ e → m % 2 = 0) ∧
      (m = 2 ^ 52 → 0 < e → 4 * (m * (den * 2 ^ e)) ≤ 4 * num + den * 2 ^ e) := by
  have hquot : units / 2 ^ e = m := by rw [hm, Nat.mul_div_cancel _ (Nat.two_pow_pos e)]
  have hunits : units * den = m * (den * 2 ^ e) := by rw [hm, Nat.mul_assoc, Nat.mul_comm den]
  have hle : 2 ^ e * den ≤ units * den :=
    Nat.mul_le_mul_right den (by rw [hm]; exact Nat.le_mul_of_pos_left _ hpos)
  obtain ⟨hlow, hhigh, hends⟩ := (holds_iff _ _ _).1 h
  simp only [neighbourhood, hb.spacing_eq, hquot, Nat.pow_eq, beq_eq_false_iff_ne, Nat.sub_mul,
    Nat.add_mul, Nat.mul_assoc] at hlow hhigh hends
  rw [Nat.mul_comm (2 ^ e) den] at hle
  by_cases hs : m = 2 ^ 52 ∧ 1 < 2 ^ e
  -- the significand of a power of two is even, so the ends are no matter
  · have heven : m % 2 = 0 := by
      rw [hs.1]
      decide
    rw [if_pos hs, Nat.mul_comm (2 ^ e) den, hunits] at hlow
    rw [Nat.mul_comm (2 ^ e) den, hunits] at hhigh
    refine ⟨by omega, by omega, fun _ => heven, fun _ _ => by omega⟩
  · rw [if_neg hs, Nat.mul_assoc, Nat.mul_comm (2 ^ e) den, hunits] at hlow hends
    rw [Nat.mul_comm (2 ^ e) den, hunits] at hhigh
    have hnot : m = 2 ^ 52 → ¬ 0 < e := fun hm52 he =>
      hs ⟨hm52, Nat.one_lt_two_pow he.ne'⟩
    refine ⟨by omega, by omega, ?_, fun hm52 he => absurd he (hnot hm52)⟩
    intro htie
    by_contra hodd
    have := hends hodd
    omega

/-- A quotient near a number is in its binade, or in the one below if the number is the first of its
binade. -/
theorem inBinade_of_bounds (hden : 0 < den) (hlow : e = 0 ∨ 2 ^ 52 * (den * 2 ^ e) ≤ num)
    (hhigh : num < 2 ^ 53 * (den * 2 ^ e)) : InBinade e (num / den) := by
  refine ⟨?_, hlow.imp id ?_⟩
  · rw [Nat.div_lt_iff_lt_mul hden, Nat.pow_add, Nat.mul_assoc, Nat.mul_comm (2 ^ e)]
    exact hhigh
  · intro hlow
    rw [Nat.le_div_iff_mul_le hden, Nat.pow_add, Nat.mul_assoc, Nat.mul_comm (2 ^ e)]
    exact hlow

theorem ofRatio_of_round {q : Nat} (hb : InBinade e (num * oneUnits / den))
    (hq : roundHalfEven (num * oneUnits) (den * 2 ^ e) = q) (hunits : q * 2 ^ e < unitsLimit)
    (negative : Bool) : ofRatio negative num den = .finite negative (q * 2 ^ e) := by
  rw [ofRatio_of_inBinade hb, hq, if_neg (Nat.not_le.2 hunits)]

/-- A quotient in the neighbourhood of a representable magnitude rounds to it. -/
theorem ofRatio_of_holds (hr : Representable units) (hpos : 0 < units) (hden : 0 < den)
    (h : (neighbourhood units).holds den (num * oneUnits) = true) (negative : Bool) :
    ofRatio negative num den = .finite negative units := by
  obtain ⟨e, m, hb, hm, hmhigh, hmlow⟩ := hr.significand
  have hmpos : 0 < m := Nat.pos_of_ne_zero fun h0 => by simp [hm, h0] at hpos
  obtain ⟨hlow, hhigh, htie, hquarter⟩ := holds_significand hb hm hmpos h
  have hlimit : m * 2 ^ e < unitsLimit := hm ▸ hr.1
  have hstep : 0 < den * 2 ^ e := Nat.mul_pos hden (Nat.two_pow_pos e)
  rw [hm]
  by_cases hbelow : m = 2 ^ 52 ∧ 0 < e ∧ num * oneUnits < m * (den * 2 ^ e)
  -- below a power of two the distance is half as large, and the quotient rounds up to it
  · obtain ⟨rfl, he, hlt⟩ := hbelow
    have hquarter := hquarter rfl he
    obtain ⟨e, rfl⟩ : ∃ i, e = i + 1 := ⟨e - 1, by omega⟩
    have hdouble : den * 2 ^ (e + 1) = 2 * (den * 2 ^ e) := by rw [Nat.pow_succ]; ring
    rw [hdouble] at hlt hquarter
    have hpow : 2 ^ 52 * 2 ^ (e + 1) = 2 ^ 53 * 2 ^ e := by rw [Nat.pow_succ]; ring
    rw [hpow] at hlimit ⊢
    refine ofRatio_of_round ?_ ?_ hlimit negative
    · refine inBinade_of_bounds hden (Or.inr ?_) ?_
      · omega
      · omega
    · refine roundHalfEven_eq ?_ ?_ (fun _ => by decide) (Nat.mul_pos hden (Nat.two_pow_pos e))
      · omega
      · omega
  -- everywhere else the quotient lies in the binade of the number
  · refine ofRatio_of_round ?_ (roundHalfEven_eq hlow hhigh htie hstep) hlimit negative
    have hm1 : (m + 1) * (den * 2 ^ e) ≤ 2 ^ 53 * (den * 2 ^ e) := Nat.mul_le_mul_right _ hmhigh
    rw [Nat.succ_mul] at hm1
    refine inBinade_of_bounds hden ?_ (by omega)
    rcases hmlow with he | hm52
    · exact Or.inl he
    · by_cases he : e = 0
      · exact Or.inl he
      refine Or.inr ?_
      rcases Nat.lt_or_eq_of_le hm52 with hlt | heq
      · have := Nat.mul_le_mul_right (den * 2 ^ e) (show 2 ^ 52 + 1 ≤ m from hlt)
        rw [Nat.succ_mul] at this
        omega
      · rw [heq]
        exact Nat.le_of_not_lt fun hlt => hbelow ⟨heq.symm, Nat.pos_of_ne_zero he, hlt⟩

end Neighbourhood

/-! ## Decimals -/

section Decimal

variable {units digits : Nat} {exponent : Int}

theorem ofDecimal_representable {negative s : Bool}
    (h : ofDecimal negative digits exponent = .finite s units) :
    s = negative ∧ Representable units := by
  have zero {t : Bool} {u : Nat} (h : Binary64.finite negative 0 = .finite t u) :
      t = negative ∧ Representable u := by
    obtain ⟨rfl, rfl⟩ := Binary64.finite.inj h
    exact ⟨rfl, representable_zero⟩
  unfold ofDecimal at h
  split at h
  · exact zero h
  split at h
  · simp at h
  split at h
  · exact zero h
  split at h
  · exact ofRatio_representable h
  · exact ofRatio_representable h

/-- The neighbourhood of a magnitude other than zero keeps a distance from zero and from infinity. -/
theorem neighbourhood_ends (hr : Representable units) (hpos : 0 < units) :
    2 * units ≤ (neighbourhood units).low4 ∧ (neighbourhood units).low4 + 2 ≤ 4 * units ∧
      4 * units < (neighbourhood units).high4 ∧ (neighbourhood units).high4 ≤ 6 * units := by
  have hle : spacing units ≤ units := Nat.le_of_dvd hpos hr.2
  have hone := spacing_pos units
  unfold neighbourhood
  dsimp only
  split
  · omega
  · omega

/-- Ten to the 400 lies beyond every neighbourhood. -/
theorem not_holds_of_large (hr : Representable units) (hpos : 0 < units)
    (hd : digits ≠ 0) (he : 400 < exponent) :
    (neighbourhood units).holds 1 (digits * 10 ^ exponent.toNat * oneUnits) = false := by
  have hexp : 400 ≤ exponent.toNat := by omega
  have hvalue : 6 * unitsLimit ≤ 4 * (digits * 10 ^ exponent.toNat * oneUnits) := by
    have hlimit : 6 * unitsLimit ≤ 4 * (10 ^ 400 * oneUnits) := by decide +kernel
    have hpow {i : Nat} (hi : i ≤ exponent.toNat) : 10 ^ i ≤ digits * 10 ^ exponent.toNat :=
      Nat.le_trans (Nat.pow_le_pow_right (by decide) hi)
        (Nat.le_mul_of_pos_left _ (Nat.pos_of_ne_zero hd))
    exact hlimit.trans (Nat.mul_le_mul_left 4 (Nat.mul_le_mul_right oneUnits (hpow hexp)))
  obtain ⟨-, -, -, hhigh⟩ := neighbourhood_ends hr hpos
  have hlt := hr.1
  rw [← Bool.not_eq_true, holds_iff]
  rintro ⟨-, h, -⟩
  omega

/-- Ten to the -400 lies below every neighbourhood. -/
theorem not_holds_of_small (hr : Representable units) (hpos : 0 < units)
    (he : exponent + digits.log2 + 400 < 0) :
    (neighbourhood units).holds (10 ^ (-exponent).toNat) (digits * oneUnits) = false := by
  have hdigits : digits * oneUnits < 2 ^ (digits.log2 + 1) * oneUnits :=
    Nat.mul_lt_mul_of_pos_right Nat.lt_log2_self oneUnits_pos
  have hscale : 4 * (2 ^ (digits.log2 + 1) * oneUnits) ≤ 10 ^ (-exponent).toNat := by
    have hfinest : finestExponent = 324 := rfl
    obtain ⟨i, hi⟩ : ∃ i, (-exponent).toNat = finestExponent + (digits.log2 + 1 + i) :=
      ⟨(-exponent).toNat - (finestExponent + (digits.log2 + 1)), by omega⟩
    have hpow : 4 * 2 ^ digits.log2 ≤ 10 ^ (digits.log2 + 1 + i) :=
      calc 4 * 2 ^ digits.log2
          ≤ 10 * 10 ^ digits.log2 :=
            Nat.mul_le_mul (by decide) (Nat.pow_le_pow_left (by decide) _)
        _ = 10 ^ (digits.log2 + 1) := Nat.pow_succ'.symm
        _ ≤ 10 ^ (digits.log2 + 1 + i) :=
            Nat.pow_le_pow_right (by decide) (Nat.le_add_right _ i)
    calc 4 * (2 ^ (digits.log2 + 1) * oneUnits)
        = 2 * oneUnits * (4 * 2 ^ digits.log2) := by ring
      _ ≤ 10 ^ finestExponent * 10 ^ (digits.log2 + 1 + i) := Nat.mul_le_mul two_mul_oneUnits_le hpow
      _ = 10 ^ (-exponent).toNat := by rw [← Nat.pow_add, ← hi]
  obtain ⟨hlow, -, -, -⟩ := neighbourhood_ends hr hpos
  have hends : 1 * 10 ^ (-exponent).toNat ≤
      (neighbourhood units).low4 * 10 ^ (-exponent).toNat :=
    Nat.mul_le_mul_right _ (by omega)
  rw [← Bool.not_eq_true, holds_iff]
  rintro ⟨h, -, -⟩
  omega

/-- A decimal in the neighbourhood of a representable magnitude is read as it. -/
theorem ofDecimal_of_holds (hr : Representable units) (hpos : 0 < units)
    (h : (neighbourhood units).holds (10 ^ (-exponent).toNat)
      (digits * 10 ^ exponent.toNat * oneUnits) = true) (negative : Bool) :
    ofDecimal negative digits exponent = .finite negative units := by
  have hd : digits ≠ 0 := by
    rintro rfl
    obtain ⟨hlow, -, -, -⟩ := neighbourhood_ends hr hpos
    have hzero := ((holds_iff _ _ _).1 h).1
    have : 1 * 1 ≤ (neighbourhood units).low4 * 10 ^ (-exponent).toNat :=
      Nat.mul_le_mul (by omega) (Nat.pow_pos (by decide))
    simp only [Nat.zero_mul] at hzero
    omega
  unfold ofDecimal
  rw [if_neg hd]
  by_cases he : 0 ≤ exponent
  · have hscale : (-exponent).toNat = 0 := by omega
    rw [hscale, Nat.pow_zero] at h
    rw [if_neg, if_neg (by omega), if_pos he]
    · exact ofRatio_of_holds hr hpos (by decide) h negative
    · intro hlarge
      simp [not_holds_of_large hr hpos hd hlarge] at h
  · have hscale : exponent.toNat = 0 := by omega
    rw [hscale, Nat.pow_zero, Nat.mul_one] at h
    rw [if_neg (by omega), if_neg, if_neg he]
    · exact ofRatio_of_holds hr hpos (Nat.pow_pos (by decide)) h negative
    · intro hsmall
      simp [not_holds_of_small hr hpos hsmall] at h

end Decimal

/-! ## Overflow -/

/-- Exponent of the distance between the largest finite numbers. -/
def lastExponent : Nat := 2045

/-- The least natural that rounds to infinity: it lies half a distance below 2^1024. -/
def overflowBound : Nat := 2 ^ 1024 - 2 ^ 970

/-- A magnitude rounds beyond the finite numbers exactly from half a distance below their end. -/
theorem unitsLimit_le_round_iff {num e : Nat} (h : InBinade e num) :
    unitsLimit ≤ roundHalfEven num (2 ^ e) * 2 ^ e ↔
      2 * unitsLimit ≤ 2 * num + 2 ^ lastExponent := by
  have hlimit : unitsLimit = 2 ^ 53 * 2 ^ lastExponent := by decide +kernel
  have hone : InBinade e (num / 1) := by rwa [Nat.div_one]
  have hround := hone.round
  rw [Nat.one_mul] at hround
  obtain ⟨hhigh, hlow⟩ := h
  rw [Nat.pow_add] at hhigh hlow
  generalize lastExponent = last at hlimit ⊢
  rcases Nat.lt_trichotomy e last with he | rfl | he
  -- in the binades below, both the magnitude and what it rounds to are at most half the limit
  · have hstep : 2 ^ (e + 1) ≤ 2 ^ last := Nat.pow_le_pow_right Nat.two_pos he
    have hq := Nat.mul_le_mul_right (2 ^ e) hround.1
    rw [Nat.pow_succ] at hstep
    omega
  · have hpos := Nat.two_pow_pos e
    have hnear := roundHalfEven_near num (2 ^ e)
    constructor
    · intro hle
      omega
    · intro hnum
      have hq : roundHalfEven num (2 ^ e) = 2 ^ 53 :=
        roundHalfEven_eq (by omega) (by omega) (fun _ => by decide) hpos
      rw [hq, hlimit]
  · have hpos : e ≠ 0 := Nat.ne_of_gt (Nat.zero_lt_of_lt he)
    have hstep : 2 ^ (last + 1) ≤ 2 ^ e := Nat.pow_le_pow_right Nat.two_pos he
    have hnum := hlow.resolve_left hpos
    have hq := Nat.mul_le_mul_right (2 ^ e) (hround.2.resolve_left hpos)
    rw [Nat.pow_succ] at hstep
    omega

theorem ofInt_zero : ofInt 0 = .finite false 0 := by
  simp [ofInt, ofRatio, roundHalfEven, Nat.not_le.2 unitsLimit_pos]

/-- An integer is rounded to infinity exactly from the bound on. -/
theorem ofInt_infinite_iff (n : Int) :
    ofInt n = .infinite (decide (n < 0)) ↔ overflowBound ≤ n.natAbs := by
  have hb := inBinade_log2 (n.natAbs * oneUnits / 1)
  have hbound : 2 * (overflowBound * oneUnits) + 2 ^ lastExponent = 2 * unitsLimit := by
    decide +kernel
  have hscale : overflowBound ≤ n.natAbs ↔ overflowBound * oneUnits ≤ n.natAbs * oneUnits :=
    (Nat.mul_le_mul_right_iff oneUnits_pos).symm
  rw [ofInt, ofRatio_of_inBinade hb, Nat.one_mul, hscale]
  rw [Nat.div_one] at hb ⊢
  have hiff := unitsLimit_le_round_iff hb
  split
  · rename_i hle
    have := hiff.1 hle
    simp only [true_iff]
    omega
  · rename_i hle
    have := mt hiff.2 hle
    simp only [reduceCtorEq, false_iff]
    omega

end ParamGate.Binary64
