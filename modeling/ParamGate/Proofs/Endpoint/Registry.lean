import Mathlib.Data.Finset.Card
import Mathlib.Data.List.Induction
import ParamGate.Endpoint.Registry
import ParamGate.Proofs.Outcome

/-!
# A registry and what was stored in it

A registry keeps one entry for each key. Seen from outside it is the history of what was stored:
under a key it has what was stored there last (`Registry.get?_putAll`), and its size is the number
of different keys in the history (`Registry.size_putAll_empty`). `EndpointKey.parse` is the one way
in which a path, a method and a version become a key, for storing and for looking up.
-/

namespace ParamGate

namespace EndpointKey

/-- The key under which something is stored and looked up. -/
def parse (path method version : Value) : Except Fault EndpointKey := do
  let k ← ofValues path method version
  k.checked

/-- The key without a version of the same path and method. -/
def unversioned (k : EndpointKey) : EndpointKey := { k with version := .null }

/-- The key of a path and a method in text: the method in upper case, and the one for reading if it
is empty. -/
def ofText (path method : String) (version : Value) : EndpointKey where
  path := .string path
  method := .string (Text.upper (if method = "" then standardMethod else method))
  version := Endpoint.normalVersion version

theorem ofValues_text (path method : String) (version : Value) :
    ofValues (.string path) (.string method) version = .ok (ofText path method version) := by
  by_cases hm : method = ""
  · subst hm
    rfl
  · have horElse : (Value.string method).orElse (.string standardMethod) = .string method := by
      simp [Value.orElse, Value.truthy, hm]
    rw [ofValues, horElse, ofText, if_neg hm]
    rfl

/-- A path and a method in text make a key with every version that can be looked up. -/
theorem parse_text (path method : String) {version : Value}
    (h : (Endpoint.normalVersion version).unhashable? = none) :
    parse (.string path) (.string method) version = .ok (ofText path method version) := by
  rw [parse, ofValues_text, ok_bind, checked, ofText, h]
  rfl

theorem parse_text_of_unhashable (path method : String) {version : Value} {type : String}
    (h : (Endpoint.normalVersion version).unhashable? = some type) :
    parse (.string path) (.string method) version = .error (.unhashable type) := by
  rw [parse, ofValues_text, ok_bind, checked, ofText, h]
  rfl

end EndpointKey

namespace Registry

variable {α : Type}

theorem register_eq (r : Registry α) (path method version : Value) (a : α) :
    r.register path method version a =
      (EndpointKey.parse path method version).map fun k => r.put k a := by
  rw [register, EndpointKey.parse]
  cases EndpointKey.ofValues path method version with
  | error fault => rfl
  | ok k =>
      rw [ok_bind, ok_bind]
      cases k.checked with
      | error fault => rfl
      | ok l => rfl

theorem lookup_eq (r : Registry α) (path method version : Value) :
    r.lookup path method version = (EndpointKey.parse path method version).map r.find? := by
  rw [lookup, EndpointKey.parse]
  cases EndpointKey.ofValues path method version with
  | error fault => rfl
  | ok k =>
      rw [ok_bind, ok_bind]
      cases k.checked with
      | error fault => rfl
      | ok l => rfl

/-! ## One store -/

/-- The keys that have an entry, by identity. -/
def ids (r : Registry α) : List (Key × Key × Key) := r.entries.map fun e => e.1.id

theorem length_ids (r : Registry α) : r.ids.length = r.size := List.length_map _

theorem find_putEntry_of_ne {k l : EndpointKey} (a : α) (h : k.id ≠ l.id)
    (entries : List (EndpointKey × α)) :
    (putEntry k a entries).find? (fun e => e.1.id == l.id) =
      entries.find? fun e => e.1.id == l.id := by
  have hkl : (k.id == l.id) = false := by simpa using h
  induction entries with
  | nil => simp [putEntry, hkl]
  | cons e entries ih =>
      rw [putEntry]
      by_cases he : e.1.id = k.id
      -- the entry is replaced, and neither the old nor the new one is looked for
      · simp [he, hkl]
      · rw [if_neg he]
        simp only [List.find?_cons, ih]

/-- A registry without two entries for one key finds each of its entries. -/
theorem get?_of_mem {r : Registry α} (h : r.ids.Nodup) {k : EndpointKey} {a : α}
    (hmem : (k, a) ∈ r.entries) : r.get? k = some a := by
  rw [get?]
  cases hfind : r.entries.find? fun e => e.1.id == k.id with
  | none =>
      have hnone := List.find?_eq_none.1 hfind (k, a) hmem
      simp at hnone
  | some e =>
      have hid : e.1.id = k.id := by simpa using List.find?_some hfind
      have he : e = (k, a) :=
        List.inj_on_of_nodup_map h (List.mem_of_find?_eq_some hfind) hmem hid
      rw [he]
      rfl

/-- Storing under a key changes what is found under that key and no other. -/
theorem get?_put (r : Registry α) (k l : EndpointKey) (a : α) :
    (r.put k a).get? l = if k.id = l.id then some a else r.get? l := by
  by_cases h : k.id = l.id
  · rw [if_pos h]
    have hself := get?_put_self r k a
    rw [get?] at hself ⊢
    rwa [← h]
  · rw [if_neg h, get?, get?]
    exact congrArg (Option.map Prod.snd) (find_putEntry_of_ne a h r.entries)

/-- After a store an entry is one from before, or it has what was stored, under the key stored under
or, if there was an entry for it, under the key of that entry. -/
theorem origin_of_mem_putEntry {k l : EndpointKey} {a b : α} {entries : List (EndpointKey × α)}
    (h : (l, b) ∈ putEntry k a entries) :
    (l, b) ∈ entries ∨ b = a ∧ l.id = k.id ∧ (l = k ∨ ∃ c, (l, c) ∈ entries) := by
  induction entries with
  | nil =>
      obtain ⟨rfl, rfl⟩ := Prod.mk.inj (List.mem_singleton.1 h)
      exact Or.inr ⟨rfl, rfl, Or.inl rfl⟩
  | cons e entries ih =>
      rw [putEntry] at h
      by_cases he : e.1.id = k.id
      · rw [if_pos he] at h
        rcases List.mem_cons.1 h with heq | h
        · obtain ⟨rfl, rfl⟩ := Prod.mk.inj heq
          exact Or.inr ⟨rfl, he, Or.inr ⟨e.2, List.mem_cons_self⟩⟩
        · exact Or.inl (List.mem_cons_of_mem e h)
      · rw [if_neg he] at h
        rcases List.mem_cons.1 h with heq | h
        · exact Or.inl (List.mem_cons.2 (Or.inl heq))
        · refine (ih h).imp (List.mem_cons_of_mem e) ?_
          rintro ⟨hb, hl, hk⟩
          refine ⟨hb, hl, hk.imp_right ?_⟩
          rintro ⟨c, hc⟩
          exact ⟨c, List.mem_cons_of_mem e hc⟩

theorem mem_ids_putEntry {k : EndpointKey} {a : α} {i : Key × Key × Key}
    (entries : List (EndpointKey × α)) :
    i ∈ (putEntry k a entries).map (fun e => e.1.id) ↔
      i = k.id ∨ i ∈ entries.map fun e => e.1.id := by
  induction entries with
  | nil => simp [putEntry]
  | cons e entries ih =>
      rw [putEntry]
      by_cases he : e.1.id = k.id
      · simp [he]
      · rw [if_neg he, List.map_cons, List.mem_cons, ih, List.map_cons, List.mem_cons]
        exact or_left_comm

/-- The keys after a store are the key stored under and those from before. -/
theorem mem_ids_put {r : Registry α} {k : EndpointKey} {a : α} {i : Key × Key × Key} :
    i ∈ (r.put k a).ids ↔ i = k.id ∨ i ∈ r.ids :=
  mem_ids_putEntry r.entries

theorem nodup_ids_putEntry {k : EndpointKey} {a : α} {entries : List (EndpointKey × α)}
    (h : (entries.map fun e => e.1.id).Nodup) :
    ((putEntry k a entries).map fun e => e.1.id).Nodup := by
  induction entries with
  | nil => simp [putEntry]
  | cons e entries ih =>
      rw [List.map_cons, List.nodup_cons] at h
      obtain ⟨hnew, hrest⟩ := h
      rw [putEntry]
      by_cases he : e.1.id = k.id
      · rw [if_pos he, List.map_cons, List.nodup_cons]
        exact ⟨hnew, hrest⟩
      · rw [if_neg he, List.map_cons, List.nodup_cons, mem_ids_putEntry]
        refine ⟨?_, ih hrest⟩
        rintro (hk | hm)
        · exact he hk
        · exact hnew hm

/-- No key gets a second entry. -/
theorem nodup_ids_put {r : Registry α} (h : r.ids.Nodup) (k : EndpointKey) (a : α) :
    (r.put k a).ids.Nodup :=
  nodup_ids_putEntry h

end Registry

/-! ## Histories -/

section History

variable {α : Type} {k : EndpointKey} {stored : List (EndpointKey × α)}

/-- What was stored last under a key, in a history whose latest store stands at the end. -/
def latest? (k : EndpointKey) (stored : List (EndpointKey × α)) : Option α :=
  (stored.reverse.find? fun e => e.1.id == k.id).map Prod.snd

/-- What was stored last in the later part of a history counts before what its earlier part has. -/
theorem latest?_append (more : List (EndpointKey × α)) :
    latest? k (stored ++ more) = (latest? k more).or (latest? k stored) := by
  rw [latest?, List.reverse_append, List.find?_append, Option.map_or]
  rfl

theorem latest?_concat (e : EndpointKey × α) :
    latest? k (stored ++ [e]) = if e.1.id = k.id then some e.2 else latest? k stored := by
  rw [latest?_append, latest?, List.reverse_singleton, List.find?_singleton]
  by_cases h : e.1.id = k.id
  · simp [h]
  · simp [h]

/-- What is found last was stored under the key, and nothing was stored under it afterwards. -/
theorem latest?_eq_some {a : α} (h : latest? k stored = some a) :
    ∃ before l after, stored = before ++ (l, a) :: after ∧ l.id = k.id ∧
      ∀ e ∈ after, e.1.id ≠ k.id := by
  obtain ⟨e, he, rfl⟩ := Option.map_eq_some_iff.1 h
  obtain ⟨hk, later, earlier, hsplit, hlater⟩ := List.find?_eq_some_iff_append.1 he
  refine ⟨earlier.reverse, e.1, later.reverse, ?_, by simpa using hk, ?_⟩
  · have hr := congrArg List.reverse hsplit
    simpa using hr
  · intro f hf
    have hne := hlater f (List.mem_reverse.1 hf)
    simpa using hne

theorem latest?_eq_none_iff : latest? k stored = none ↔ ∀ e ∈ stored, e.1.id ≠ k.id := by
  rw [latest?, Option.map_eq_none_iff, List.find?_eq_none]
  simp

/-- If something was stored under a key, and all of it has a property, then what was stored last has
the property. -/
theorem latest?_of_forall {P : α → Prop} (hmem : ∃ e ∈ stored, e.1.id = k.id)
    (hall : ∀ e ∈ stored, e.1.id = k.id → P e.2) : ∃ a, latest? k stored = some a ∧ P a := by
  cases h : latest? k stored with
  | none =>
      obtain ⟨e, he, hk⟩ := hmem
      exact absurd hk (latest?_eq_none_iff.1 h e he)
  | some a =>
      obtain ⟨before, l, after, rfl, hk, -⟩ := latest?_eq_some h
      exact ⟨a, rfl, hall (l, a) (by simp) hk⟩

namespace Registry

/-- A registry after a history of stores. -/
def putAll (r : Registry α) (stored : List (EndpointKey × α)) : Registry α :=
  stored.foldl (fun r e => r.put e.1 e.2) r

theorem putAll_append (r : Registry α) (more : List (EndpointKey × α)) :
    r.putAll (stored ++ more) = (r.putAll stored).putAll more :=
  List.foldl_append

theorem putAll_concat (r : Registry α) (e : EndpointKey × α) :
    r.putAll (stored ++ [e]) = (r.putAll stored).put e.1 e.2 :=
  putAll_append r [e]

/-- Under a key a registry has what the history stored there last, or else what it had before. -/
theorem get?_putAll (r : Registry α) (k : EndpointKey) (stored : List (EndpointKey × α)) :
    (r.putAll stored).get? k = (latest? k stored).or (r.get? k) := by
  induction stored using List.reverseRecOn with
  | nil => rfl
  | append_singleton stored e ih =>
      rw [putAll_concat, get?_put, latest?_concat]
      by_cases h : e.1.id = k.id
      · simp [h]
      · rw [if_neg h, if_neg h, ih]

/-- Every entry of a registry that started empty was stored, under a key with the identity of its
own, and its own key is one that something was stored under. -/
theorem origin_of_mem_putAll {l : EndpointKey} {a : α}
    (h : (l, a) ∈ (empty.putAll stored).entries) :
    (∃ b, (l, b) ∈ stored) ∧ ∃ k, (k, a) ∈ stored ∧ k.id = l.id := by
  induction stored using List.reverseRecOn generalizing l a with
  | nil => simp [putAll, empty] at h
  | append_singleton stored e ih =>
      rw [putAll_concat] at h
      have earlier {l : EndpointKey} {a : α} (hm : (l, a) ∈ stored) : (l, a) ∈ stored ++ [e] :=
        List.mem_append_left [e] hm
      rcases origin_of_mem_putEntry h with h | ⟨rfl, hid, hkey⟩
      · obtain ⟨⟨b, hb⟩, k, hk, hkl⟩ := ih h
        exact ⟨⟨b, earlier hb⟩, k, earlier hk, hkl⟩
      · refine ⟨?_, e.1, by simp, hid.symm⟩
        rcases hkey with rfl | ⟨c, hc⟩
        · exact ⟨e.2, by simp⟩
        · obtain ⟨⟨b, hb⟩, -⟩ := ih hc
          exact ⟨b, earlier hb⟩

theorem ids_putAll_empty (stored : List (EndpointKey × α)) :
    (empty.putAll stored).ids.Nodup ∧
      ∀ i, i ∈ (empty.putAll stored).ids ↔ i ∈ stored.map fun e => e.1.id := by
  induction stored using List.reverseRecOn with
  | nil => exact ⟨List.nodup_nil, fun i => Iff.rfl⟩
  | append_singleton stored e ih =>
      obtain ⟨hnodup, hmem⟩ := ih
      rw [putAll_concat]
      refine ⟨nodup_ids_put hnodup e.1 e.2, ?_⟩
      intro i
      rw [mem_ids_put, hmem, List.map_append, List.mem_append, List.map_singleton,
        List.mem_singleton]
      exact or_comm

/-- A registry that started empty has one entry for each key that something was stored under. -/
theorem size_putAll_empty (stored : List (EndpointKey × α)) :
    (empty.putAll stored).size = (stored.map fun e => e.1.id).toFinset.card := by
  obtain ⟨hnodup, hmem⟩ := ids_putAll_empty stored
  have hsame : (empty.putAll stored).ids.toFinset = (stored.map fun e => e.1.id).toFinset := by
    ext i
    rw [List.mem_toFinset, List.mem_toFinset]
    exact hmem i
  rw [← length_ids, ← List.toFinset_card_of_nodup hnodup, hsame]

end Registry

end History

end ParamGate
