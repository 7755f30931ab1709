import Mathlib.Data.List.TakeWhile
import ParamGate.Text.Surrogate
import ParamGate.Text.Trim

/-!
# Blanks, words and separators

No blank is a word character, in ASCII and beyond it (`isWord_of_isBlank`), so a run of word
characters ends where a blank follows, and trimming takes nothing off it. The blanks beyond ASCII
are few, and each is looked up in the table of word characters once.

A text is cut at the first separator (`cut_eq_some_iff`). It is split at all of them, and parts
without a separator that are put together with one between each two are split into the same parts
again (`splitOn_intercalate`).
-/

namespace ParamGate.Text

/-! ## Blanks and word characters -/

/-- Codes of the blanks beyond ASCII. -/
def highBlanks : List Nat :=
  [0x85, 0xA0, 0x1680, 0x2000, 0x2001, 0x2002, 0x2003, 0x2004, 0x2005, 0x2006, 0x2007, 0x2008,
    0x2009, 0x200A, 0x2028, 0x2029, 0x202F, 0x205F, 0x3000]

theorem wordRanges_apart :
    wordRanges.toList.all (fun r => highBlanks.all fun n => Nat.blt n r.1 || Nat.blt r.2 n) =
      true := by
  decide +kernel

theorem inRanges_of_mem_highBlanks {n : Nat} (h : n ∈ highBlanks) :
    inRanges wordRanges n = false := by
  rw [inRanges, ← Array.any_toList, List.any_eq_false]
  intro r hr hn
  have hapart := List.all_eq_true.1 (List.all_eq_true.1 wordRanges_apart r hr) n h
  simp only [Bool.or_eq_true, Nat.blt_eq] at hapart
  simp only [Bool.and_eq_true, decide_eq_true_eq] at hn
  omega

theorem mem_highBlanks {c : Char} (h : isBlank c = true) (hc : ¬ c.toNat < 128) :
    c.toNat ∈ highBlanks := by
  simp only [isBlank, Bool.or_eq_true, Bool.and_eq_true, decide_eq_true_eq, beq_iff_eq] at h
  simp only [highBlanks, List.mem_cons, List.not_mem_nil, or_false]
  omega

/-- No blank is a word character. -/
theorem isWord_of_isBlank {c : Char} (h : isBlank c = true) : isWord c = false := by
  unfold isWord
  by_cases hc : c.toNat < 128
  · simp only [isBlank, Bool.or_eq_true, Bool.and_eq_true, decide_eq_true_eq, beq_iff_eq] at h
    simp only [hc, if_true, Bool.or_eq_false_iff, Bool.and_eq_false_iff, decide_eq_false_iff_not,
      beq_eq_false_iff_ne]
    omega
  · rw [if_neg hc]
    exact inRanges_of_mem_highBlanks (mem_highBlanks h hc)

theorem isBlank_of_isWord {c : Char} (h : isWord c = true) : isBlank c = false := by
  cases hb : isBlank c with
  | false => rfl
  | true => simp [isWord_of_isBlank hb] at h

/-- Trimming takes nothing off a text without the characters that it removes. -/
theorem trimBy_of_forall {p : Char → Bool} {cs : List Char} (h : ∀ c ∈ cs, p c = false) :
    trimBy p cs = cs := by
  have kept {ds : List Char} (hd : ∀ c ∈ ds, p c = false) : ds.dropWhile p = ds := by
    cases ds with
    | nil => rfl
    | cons d ds => exact List.dropWhile_cons_of_neg (by simp [hd d List.mem_cons_self])
  have hreverse : ∀ c ∈ cs.reverse, p c = false := fun c hc => h c (List.mem_reverse.1 hc)
  rw [trimBy, kept h, kept hreverse, List.reverse_reverse]

/-! ## Separators -/

/-- A text is cut at its first separator. -/
theorem cut_eq_some_iff {α : Type} [DecidableEq α] {sep : α} {cs part rest : List α} :
    cut sep cs = (part, some rest) ↔ sep ∉ part ∧ cs = part ++ sep :: rest := by
  have hfront : ∀ c ∈ cs.takeWhile (· != sep), c ≠ sep := by
    intro c hc
    simpa using List.mem_takeWhile_imp hc
  constructor
  · intro h
    unfold cut at h
    split at h
    · simp at h
    · rename_i c ds hd
      simp only [Prod.mk.injEq, Option.some.injEq] at h
      obtain ⟨rfl, rfl⟩ := h
      -- what is dropped up to begins with the separator
      obtain rfl : c = sep := by
        have hne := List.head?_dropWhile_not (· != sep) cs
        rw [hd] at hne
        simpa using hne
      refine ⟨fun hm => hfront c hm rfl, ?_⟩
      rw [← hd, List.takeWhile_append_dropWhile]
  · rintro ⟨hpart, rfl⟩
    have hall : ∀ c ∈ part, (c != sep) = true := by
      intro c hc
      simp only [bne_iff_ne]
      rintro rfl
      exact hpart hc
    unfold cut
    rw [List.dropWhile_append_of_pos hall, List.takeWhile_append_of_pos hall]
    simp

/-- Splitting is that of lists. -/
theorem splitOn_eq {α : Type} [DecidableEq α] (sep : α) (cs : List α) :
    splitOn sep cs = cs.splitOn sep := by
  induction cs with
  | nil => rfl
  | cons c cs ih =>
      rw [splitOn, ih, List.splitOn_cons_eq_if_modifyHead]
      by_cases hc : c = sep
      · simp [hc]
      · cases h : cs.splitOn sep with
        | nil => exact absurd h (List.splitOn_ne_nil sep cs)
        | cons part parts => simp [hc]

/-- Parts without the separator are found again between the separators. -/
theorem splitOn_intercalate {α : Type} [DecidableEq α] {sep : α} {parts : List (List α)}
    (hne : parts ≠ []) (h : ∀ part ∈ parts, sep ∉ part) :
    splitOn sep ([sep].intercalate parts) = parts := by
  rw [splitOn_eq, List.splitOn_intercalate sep h hne]

theorem map_intercalate {α β : Type} (f : α → β) (sep : List α) (parts : List (List α)) :
    (sep.intercalate parts).map f = (sep.map f).intercalate (parts.map (List.map f)) := by
  induction parts with
  | nil => rfl
  | cons part parts ih =>
      cases parts with
      | nil => simp
      | cons next parts =>
          rw [List.intercalate_cons_cons, List.map_append, List.map_append, ih]
          simp

/-- Texts are put together code by code. -/
theorem codes_intercalate (sep : String) (texts : List String) :
    codes (String.intercalate sep texts) = (codes sep).intercalate (texts.map codes) := by
  rw [codes, codesOf, String.toList_intercalate, map_intercalate, List.map_map]
  rfl

/-- A text of parts has no other characters than these have, and the separator. -/
theorem mem_intercalate {α : Type} {sep x : α} {parts : List (List α)}
    (h : x ∈ [sep].intercalate parts) : x = sep ∨ ∃ part ∈ parts, x ∈ part := by
  induction parts with
  | nil => simp at h
  | cons part parts ih =>
      cases parts with
      | nil => exact Or.inr ⟨part, List.mem_cons_self, by simpa using h⟩
      | cons next parts =>
          rw [List.intercalate_cons_cons, List.mem_append, List.mem_append,
            List.mem_singleton] at h
          rcases h with (h | h) | h
          · exact Or.inr ⟨part, List.mem_cons_self, h⟩
          · exact Or.inl h
          · refine (ih h).imp id ?_
            rintro ⟨p, hp, hx⟩
            exact ⟨p, List.mem_cons_of_mem part hp, hx⟩

end ParamGate.Text
