import Mathlib.Data.List.Induction
import ParamGate.Value.Key

/-!
# Tables by key

A table is looked up by the key of a name, so two names with one key stand for the same entry.
`Table.Distinct` says that no key has two entries, as in every table that `put` builds from the
empty one (`distinct_put`). In such a table looking a name up and having an entry for it are the
same (`get?_of_mem`, `mem_of_get?`).
-/

namespace ParamGate.Table

variable {β γ : Type}

/-- No key has two entries. -/
def Distinct (t : Table β) : Prop := (t.map fun e => e.1.key).Nodup

theorem distinct_nil : Distinct ([] : Table β) := List.nodup_nil

theorem distinct_cons_iff {e : Value × β} {t : Table β} :
    Distinct (e :: t) ↔ (∀ f ∈ t, f.1.key ≠ e.1.key) ∧ Distinct t := by
  unfold Distinct
  rw [List.map_cons, List.nodup_cons]
  refine and_congr ?_ Iff.rfl
  constructor
  · intro h f hf he
    exact h (List.mem_map.2 ⟨f, hf, he⟩)
  · intro h hm
    obtain ⟨f, hf, he⟩ := List.mem_map.1 hm
    exact h f hf he

/-- Distinctness only depends on the names. -/
theorem distinct_congr {t : Table β} {u : Table γ} (h : t.keys = u.keys) :
    Distinct t ↔ Distinct u := by
  -- the values are of different types, so only the lists of names can be compared
  have hk : ∀ {δ : Type} (w : Table δ), (w.map fun e => e.1.key) = w.keys.map Value.key := by
    intro δ w
    simp [keys]
  unfold Distinct
  rw [hk, hk, h]

theorem get?_congr (t : Table β) {a c : Value} (h : a.key = c.key) : get? t a = get? t c := by
  induction t with
  | nil => rfl
  | cons e t ih => simp only [get?, h, ih]

theorem get?_put (t : Table β) (a c : Value) (b : β) :
    get? (put t a b) c = if a.key = c.key then some b else get? t c := by
  split
  · rename_i h
    exact get?_put_of_eq t b h
  · rename_i h
    exact get?_put_of_ne t b h

/-- What is found under a name is the value of an entry with that key. -/
theorem mem_of_get? {t : Table β} {name : Value} {b : β} (h : get? t name = some b) :
    ∃ n, n.key = name.key ∧ (n, b) ∈ t := by
  induction t with
  | nil => simp [get?] at h
  | cons e t ih =>
      simp only [get?] at h
      split at h
      · rename_i he
        cases h
        exact ⟨e.1, he, List.mem_cons_self⟩
      · obtain ⟨n, hn, hm⟩ := ih h
        exact ⟨n, hn, List.mem_cons_of_mem e hm⟩

/-- Every entry of a table without repeated keys is found under its name. -/
theorem get?_of_mem {t : Table β} (ht : Distinct t) {name : Value} {b : β} (h : (name, b) ∈ t) :
    get? t name = some b := by
  induction t with
  | nil => simp at h
  | cons e t ih =>
      obtain ⟨hne, hd⟩ := distinct_cons_iff.1 ht
      rcases List.mem_cons.1 h with rfl | hm
      · simp [get?]
      -- an earlier entry with the same key would hide this one
      · have : ¬ e.1.key = name.key := fun he => hne (name, b) hm he.symm
        rw [get?, if_neg this]
        exact ih hd hm

theorem get?_isSome_iff {t : Table β} {name : Value} :
    (get? t name).isSome ↔ ∃ e ∈ t, e.1.key = name.key := by
  constructor
  · intro h
    obtain ⟨b, hb⟩ := Option.isSome_iff_exists.1 h
    obtain ⟨n, hn, hm⟩ := mem_of_get? hb
    exact ⟨(n, b), hm, hn⟩
  · rintro ⟨e, he, hk⟩
    -- the entry that is found need not be `e`, only the first one with its key
    induction t with
    | nil => simp at he
    | cons f t ih =>
        simp only [get?]
        split
        · rfl
        · rename_i hf
          rcases List.mem_cons.1 he with rfl | he
          · exact absurd hk hf
          · exact ih he

/-- Tables with the same names have entries for the same names. -/
theorem get?_isSome_congr {t : Table β} {u : Table γ} (h : t.keys = u.keys)
    (name : Value) : (get? t name).isSome ↔ (get? u name).isSome := by
  have hk : ∀ {δ : Type} (w : Table δ),
      (∃ e ∈ w, e.1.key = name.key) ↔ ∃ n ∈ w.keys, n.key = name.key := by
    intro δ w
    simp [keys]
  rw [get?_isSome_iff, get?_isSome_iff, hk, hk, h]

/-- After storing under a name, every entry was there before or has that key and the new value. -/
theorem mem_put {t : Table β} {name : Value} {b : β} {e : Value × β} (h : e ∈ put t name b) :
    e ∈ t ∨ e.1.key = name.key ∧ e.2 = b := by
  induction t with
  | nil =>
      simp only [put, List.mem_singleton] at h
      subst h
      exact Or.inr ⟨rfl, rfl⟩
  | cons f t ih =>
      simp only [put] at h
      split at h
      · rename_i hf
        rcases List.mem_cons.1 h with rfl | h
        · exact Or.inr ⟨hf, rfl⟩
        · exact Or.inl (List.mem_cons_of_mem f h)
      · rcases List.mem_cons.1 h with rfl | h
        · exact Or.inl List.mem_cons_self
        · rcases ih h with h | h
          · exact Or.inl (List.mem_cons_of_mem f h)
          · exact Or.inr h

/-- Storing under a name keeps the keys without repetition. -/
theorem distinct_put {t : Table β} (ht : Distinct t) (name : Value) (b : β) :
    Distinct (put t name b) := by
  induction t with
  | nil => exact distinct_cons_iff.2 ⟨by simp, distinct_nil⟩
  | cons f t ih =>
      obtain ⟨hne, hd⟩ := distinct_cons_iff.1 ht
      simp only [put]
      split
      · exact distinct_cons_iff.2 ⟨hne, hd⟩
      · rename_i hf
        -- an entry behind `f` is an old one, or it has the key that `f` was passed over for
        refine distinct_cons_iff.2 ⟨?_, ih hd⟩
        intro g hg
        rcases mem_put hg with hg | ⟨hk, -⟩
        · exact hne g hg
        · rw [hk]
          exact fun he => hf he.symm

/-- A name that has no entry yet gets one at the end. -/
theorem keys_put (t : Table β) (name : Value) (b : β) :
    keys (put t name b) =
      if ∃ e ∈ t, e.1.key = name.key then keys t else keys t ++ [name] := by
  induction t with
  | nil => rfl
  | cons f t ih =>
      rw [put]
      by_cases hf : f.1.key = name.key
      · have hmem : ∃ e ∈ f :: t, e.1.key = name.key := ⟨f, List.mem_cons_self, hf⟩
        rw [if_pos hf, if_pos hmem]
        rfl
      · have hiff : (∃ e ∈ f :: t, e.1.key = name.key) ↔ ∃ e ∈ t, e.1.key = name.key := by
          simp [hf]
        rw [if_neg hf, keys, List.map_cons, ← keys, ih]
        by_cases hmem : ∃ e ∈ t, e.1.key = name.key
        · rw [if_pos hmem, if_pos (hiff.2 hmem)]
          rfl
        · rw [if_neg hmem, if_neg (mt hiff.1 hmem)]
          rfl

/-- A table after further entries are stored. -/
def putAll (t : Table β) (entries : List (Value × β)) : Table β :=
  entries.foldl (fun t e => put t e.1 e.2) t

theorem putAll_append (t : Table β) (entries more : List (Value × β)) :
    putAll t (entries ++ more) = putAll (putAll t entries) more :=
  List.foldl_append

theorem distinct_putAll {t : Table β} (ht : Distinct t) (entries : List (Value × β)) :
    Distinct (putAll t entries) := by
  induction entries generalizing t with
  | nil => exact ht
  | cons e entries ih => exact ih (distinct_put ht e.1 e.2)

/-- After storing entries, every entry was there before or has the key and the value of one of
them. -/
theorem mem_putAll {t : Table β} {entries : List (Value × β)} {e : Value × β}
    (h : e ∈ putAll t entries) : e ∈ t ∨ ∃ f ∈ entries, e.1.key = f.1.key ∧ e.2 = f.2 := by
  induction entries generalizing t with
  | nil => exact Or.inl h
  | cons f entries ih =>
      rcases ih h with h | ⟨g, hg, he⟩
      · refine (mem_put h).imp_right ?_
        exact fun he => ⟨f, List.mem_cons_self, he⟩
      · exact Or.inr ⟨g, List.mem_cons_of_mem f hg, he⟩

/-- Entries with other keys leave what is found under a name. -/
theorem get?_putAll_of_ne (t : Table β) {entries : List (Value × β)} {name : Value}
    (h : ∀ e ∈ entries, e.1.key ≠ name.key) : get? (putAll t entries) name = get? t name := by
  induction entries generalizing t with
  | nil => rfl
  | cons e entries ih =>
      have hrest := ih (put t e.1 e.2) fun f hf => h f (List.mem_cons_of_mem e hf)
      exact hrest.trans (get?_put_of_ne t e.2 (h e List.mem_cons_self))

/-! ## Rows of entries under names that may repeat -/

section Named

variable {α ι : Type} {text : ι → Value} {name : α → ι}

/-- The table of a row of items, each stored under its name. -/
def ofNamed (text : ι → Value) (name : α → ι) (value : α → β) (items : List α) : Table β :=
  ofList (items.map fun a => (text (name a), value a))

theorem ofNamed_append (value : α → β) (items more : List α) :
    ofNamed text name value (items ++ more) =
      putAll (ofNamed text name value items) (more.map fun a => (text (name a), value a)) := by
  rw [ofNamed, List.map_append]
  exact putAll_append [] _ _

theorem distinct_ofNamed (value : α → β) (items : List α) :
    Distinct (ofNamed text name value items) :=
  distinct_putAll distinct_nil _

/-- Every name has one entry, at the place of its first item. -/
theorem keys_ofNamed [BEq ι] [LawfulBEq ι]
    (htext : ∀ i j, (text i).key = (text j).key → i = j) (value : α → β) (items : List α) :
    (ofNamed text name value items).keys = (items.map name).eraseDups.map text := by
  induction items using List.reverseRecOn with
  | nil => rfl
  | append_singleton items a ih =>
      have hentry : (∃ e ∈ ofNamed text name value items, e.1.key = (text (name a)).key) ↔
          name a ∈ items.map name := by
        have hkeys : (∃ e ∈ ofNamed text name value items, e.1.key = (text (name a)).key) ↔
            ∃ k ∈ (ofNamed text name value items).keys, k.key = (text (name a)).key := by
          simp [keys]
        rw [hkeys, ih, ← List.mem_eraseDups]
        constructor
        · rintro ⟨k, hk, he⟩
          obtain ⟨i, hi, rfl⟩ := List.mem_map.1 hk
          rwa [← htext _ _ he]
        · intro h
          exact ⟨_, List.mem_map_of_mem h, rfl⟩
      have hput : ofNamed text name value (items ++ [a]) =
          put (ofNamed text name value items) (text (name a)) (value a) :=
        ofNamed_append value items [a]
      rw [hput, keys_put, ih, List.map_append, List.eraseDups_append, List.map_singleton]
      by_cases ha : name a ∈ items.map name
      · have hold : (items.map name).elem (name a) = true := List.elem_iff.2 ha
        rw [if_pos (hentry.2 ha), List.removeAll, List.filter_cons, hold]
        simp
      · have hnew : (items.map name).elem (name a) = false := by simpa using ha
        rw [if_neg (mt hentry.1 ha), List.removeAll, List.filter_cons, hnew]
        simp [List.eraseDups_cons]

/-- The entry of a name has the value of its last item. -/
theorem get?_ofNamed (htext : ∀ i j, (text i).key = (text j).key → i = j) (value : α → β)
    {before after : List α} {a : α} (hlast : ∀ later ∈ after, name later ≠ name a) :
    get? (ofNamed text name value (before ++ a :: after)) (text (name a)) = some (value a) := by
  have hlater : ∀ e ∈ after.map fun a => (text (name a), value a),
      e.1.key ≠ (text (name a)).key := by
    intro e he
    obtain ⟨later, hmem, rfl⟩ := List.mem_map.1 he
    exact mt (htext _ _) (hlast later hmem)
  have hsplit : ofNamed text name value (before ++ a :: after) =
      putAll (put (ofNamed text name value before) (text (name a)) (value a))
        (after.map fun a => (text (name a), value a)) :=
    ofNamed_append value before (a :: after)
  rw [hsplit, get?_putAll_of_ne _ hlater]
  exact get?_put_of_eq _ _ rfl

end Named

end ParamGate.Table
