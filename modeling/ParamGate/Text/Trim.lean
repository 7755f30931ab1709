import ParamGate.Text.Class

/-!
# Trimming and splitting

Removal of blanks at both ends, and the split of a text at every occurrence of one character.
`splitOn` never gives the empty list, and `cut` splits at the first occurrence only.
-/

namespace ParamGate.Text

/-- The characters without those at either end for which `p` holds. -/
def trimBy (p : Char → Bool) (cs : List Char) : List Char :=
  ((cs.dropWhile p).reverse.dropWhile p).reverse

/-- The text without the blanks at its ends. -/
def trim (s : String) : String := String.ofList (trimBy isBlank s.toList)

/-- The parts between the occurrences of `sep`. -/
def splitOn {α : Type} [DecidableEq α] (sep : α) : List α → List (List α)
  | [] => [[]]
  | c :: cs =>
      if c = sep then [] :: splitOn sep cs
      else
        match splitOn sep cs with
        | [] => [[c]]
        | part :: parts => (c :: part) :: parts

theorem splitOn_ne_nil {α : Type} [DecidableEq α] (sep : α) (cs : List α) :
    splitOn sep cs ≠ [] := by
  cases cs with
  | nil => simp [splitOn]
  | cons c cs =>
      unfold splitOn
      split
      · simp
      · split <;> simp

/-- The text up to the first occurrence of `sep`, and what follows it if it occurs. -/
def cut {α : Type} [DecidableEq α] (sep : α) (cs : List α) : List α × Option (List α) :=
  match cs.dropWhile (· != sep) with
  | [] => (cs, none)
  | _ :: rest => (cs.takeWhile (· != sep), some rest)

theorem dropWhile_length_le {α : Type} (p : α → Bool) (cs : List α) :
    (cs.dropWhile p).length ≤ cs.length := by
  induction cs with
  | nil => simp
  | cons c cs ih =>
      rw [List.dropWhile_cons]
      split
      · exact Nat.le_succ_of_le ih
      · exact Nat.le_refl _

theorem cut_length_lt {α : Type} [DecidableEq α] {sep : α} {cs part rest : List α}
    (h : cut sep cs = (part, some rest)) : rest.length < cs.length := by
  have hle := dropWhile_length_le (· != sep) cs
  unfold cut at h
  split at h
  · simp at h
  · rename_i hd
    rw [hd] at hle
    simp only [Prod.mk.injEq, Option.some.injEq] at h
    rw [← h.2]
    exact hle

end ParamGate.Text
