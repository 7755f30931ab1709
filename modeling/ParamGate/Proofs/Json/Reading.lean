import ParamGate.Proofs.Json.Scan
import ParamGate.Proofs.Value.Table

/-!
# Reading what the grammar derives

Every text that the grammar derives is read to the value of its tree, if its containers are not too
deep and no integer in it has too many digits. One that has makes the whole text unreadable, at
whatever depth it stands (`read?_of_padded`). The proof goes through the constructors of the
grammar: each says from which state of the reader a phrase leads to which, or that the reading stops
in it.
-/

namespace ParamGate.Json

open Text

/-! ## Reading that stops -/

/-- The first reading goes on as the second one, unless `p` holds: then it stops. -/
structure StopsIf (p : Prop) (x y : Option Value) : Prop where
  goes : ¬ p → x = y
  stops : p → x = none

section Stops

variable {p q : Prop} {x y z : Option Value}

theorem stopsIf_of_eq (hp : ¬ p) (h : x = y) : StopsIf p x y :=
  ⟨fun _ => h, fun hq => absurd hq hp⟩

theorem StopsIf.trans (hx : StopsIf p x y) (hy : StopsIf q y z) : StopsIf (p ∨ q) x z where
  goes := by
    intro h
    rw [not_or] at h
    rw [hx.goes h.1, hy.goes h.2]
  stops := by
    intro h
    by_cases hp : p
    · exact hx.stops hp
    · rw [hx.goes hp, hy.stops (h.resolve_left hp)]

theorem StopsIf.congr (hx : StopsIf p x y) (hpq : p ↔ q) : StopsIf q x y :=
  ⟨fun h => hx.goes (mt hpq.1 h), fun h => hx.stops (hpq.2 h)⟩

theorem StopsIf.of_eq (h : z = x) (hx : StopsIf p x y) : StopsIf p z y := h ▸ hx

end Stops

namespace Tree

theorem overlong_number {n : Numeral} : (number n).Overlong ↔ n.Overlong := by
  constructor
  · rintro ⟨h⟩
    exact h
  · exact .number

theorem overlong_array {items : List Tree} : (array items).Overlong ↔ ∃ t ∈ items, t.Overlong := by
  constructor
  · intro h
    cases h with
    | item ht h => exact ⟨_, ht, h⟩
  · rintro ⟨t, ht, h⟩
    exact .item ht h

theorem overlong_object {members : List (List Piece × Tree)} :
    (object members).Overlong ↔ ∃ m ∈ members, m.2.Overlong := by
  constructor
  · intro h
    cases h with
    | member hm h => exact ⟨_, hm, h⟩
  · rintro ⟨m, hm, h⟩
    exact .member hm h

end Tree

/-! ## States that wait -/

/-- The reader takes a value next, into the containers of the stack. -/
def Awaits (s : ReadState) (stack : List Frame) : Prop :=
  ∀ t, t ≠ .closeList → readStep s t = startValue stack t

theorem awaits_value (stack : List Frame) : Awaits ⟨stack, .value⟩ stack := fun _ _ => rfl

theorem awaits_firstItem (stack : List Frame) :
    Awaits ⟨.items [] :: stack, .firstItem⟩ (.items [] :: stack) := by
  intro t ht
  cases t with
  | closeList => exact absurd rfl ht
  | _ => rfl

/-- The reader takes a name next, into a map that has these entries already. -/
def AwaitsName (s : ReadState) (stack : List Frame) (seen : Table Value) : Prop :=
  ∀ name, readStep s (.text name) = some ⟨stack, .colon seen name⟩

theorem awaitsName_name (stack : List Frame) (seen : Table Value) :
    AwaitsName ⟨stack, .name seen⟩ stack seen := fun _ => rfl

theorem awaitsName_firstName (stack : List Frame) : AwaitsName ⟨stack, .firstName⟩ stack [] :=
  fun _ => rfl

section Waiting

variable {s : ReadState} {stack : List Frame}

/-- A word is a value. -/
theorem Awaits.scan_scalar (hs : Awaits s stack) {w cs : List Char} {v : Value} (hne : w ≠ [])
    (hw : ∀ c ∈ w, isWordChar c = true) (hv : word? w = some v) (hcs : EndsWord cs) :
    scan s .between (w ++ cs) = scan ⟨stack, .after v⟩ .between cs := by
  rw [scan_word hne hw hcs, hv, Option.bind_some, hs (.scalar v) nofun]
  rfl

/-- A container is opened if the stack has room. -/
theorem Awaits.openList (hs : Awaits s stack) (hroom : stack.length < maxDepth) (cs : List Char) :
    scan s .between ('[' :: cs) = scan ⟨.items [] :: stack, .firstItem⟩ .between cs := by
  have hmark : lexStart '[' = some ([.openList], .between) := rfl
  rw [scan_mark hmark, hs .openList nofun, startValue, if_pos hroom]
  rfl

theorem Awaits.openMap (hs : Awaits s stack) (hroom : stack.length < maxDepth) (cs : List Char) :
    scan s .between ('{' :: cs) = scan ⟨stack, .firstName⟩ .between cs := by
  have hmark : lexStart '{' = some ([.openMap], .between) := rfl
  rw [scan_mark hmark, hs .openMap nofun, startValue, if_pos hroom]
  rfl

end Waiting

/-! ## Marks that end words -/

theorem endsWord_cons {c : Char} (h : isWordChar c = false) (cs : List Char) : EndsWord (c :: cs) := by
  intro d more hd
  rw [← (List.cons.inj hd).1]
  exact h

theorem endsWord_blank {b cs : List Char} (hb : IsBlank b) (hcs : EndsWord cs) :
    EndsWord (b ++ cs) := by
  cases b with
  | nil => exact hcs
  | cons c b =>
      apply endsWord_cons
      rcases hb c List.mem_cons_self with rfl | rfl | rfl | rfl
      · rfl
      · rfl
      · rfl
      · rfl

/-! ## Closing -/

section Closing

variable (stack : List Frame) (seen : List Value) (v : Value) (entries : Table Value) (name : Value)
  (cs : List Char)

theorem scan_closeList : scan ⟨.items seen :: stack, .after v⟩ .between (']' :: cs) =
    scan ⟨stack, .after (.list (v :: seen).reverse)⟩ .between cs := by
  have hmark : lexStart ']' = some ([.closeList], .between) := rfl
  rw [scan_mark hmark]
  rfl

theorem scan_closeMap : scan ⟨.entries entries name :: stack, .after v⟩ .between ('}' :: cs) =
    scan ⟨stack, .after (.map (entries.put name v))⟩ .between cs := by
  have hmark : lexStart '}' = some ([.closeMap], .between) := rfl
  rw [scan_mark hmark]
  rfl

theorem scan_nextItem : scan ⟨.items seen :: stack, .after v⟩ .between (',' :: cs) =
    scan ⟨.items (v :: seen) :: stack, .value⟩ .between cs := by
  have hmark : lexStart ',' = some ([.comma], .between) := rfl
  rw [scan_mark hmark]
  rfl

theorem scan_nextName : scan ⟨.entries entries name :: stack, .after v⟩ .between (',' :: cs) =
    scan ⟨stack, .name (entries.put name v)⟩ .between cs := by
  have hmark : lexStart ',' = some ([.comma], .between) := rfl
  rw [scan_mark hmark]
  rfl

theorem scan_colon : scan ⟨stack, .colon entries name⟩ .between (':' :: cs) =
    scan ⟨.entries entries name :: stack, .value⟩ .between cs := by
  have hmark : lexStart ':' = some ([.colon], .between) := rfl
  rw [scan_mark hmark]
  rfl

end Closing

/-! ## Phrases -/

section Leaves

variable {s : ReadState} {stack : List Frame} {rest : List Char}

theorem scan_numeral (n : Numeral) (hs : Awaits s stack) (hrest : EndsWord rest) :
    StopsIf (Tree.number n).Overlong (scan s .between (n.chars ++ rest))
      (scan ⟨stack, .after n.value⟩ .between rest) := by
  have hword := word?_chars n
  constructor
  · intro h
    rw [Tree.overlong_number] at h
    rw [if_neg h] at hword
    exact hs.scan_scalar (chars_ne_nil n) (isWordChar_chars n) hword hrest
  · intro h
    rw [Tree.overlong_number] at h
    rw [if_pos h] at hword
    rw [scan_word (chars_ne_nil n) (isWordChar_chars n) hrest, hword]
    rfl

theorem scan_emptyArray {b : List Char} (hb : IsBlank b) (hs : Awaits s stack)
    (hroom : stack.length < maxDepth) :
    scan s .between ('[' :: b ++ [']'] ++ rest) =
      scan ⟨stack, .after (.list [])⟩ .between rest := by
  have hmark : lexStart ']' = some ([.closeList], .between) := rfl
  rw [List.append_assoc, List.cons_append, hs.openList hroom, scan_blank hb, List.singleton_append,
    scan_mark hmark]
  rfl

theorem scan_emptyObject {b : List Char} (hb : IsBlank b) (hs : Awaits s stack)
    (hroom : stack.length < maxDepth) :
    scan s .between ('{' :: b ++ ['}'] ++ rest) =
      scan ⟨stack, .after (.map [])⟩ .between rest := by
  have hmark : lexStart '}' = some ([.closeMap], .between) := rfl
  rw [List.append_assoc, List.cons_append, hs.openMap hroom, scan_blank hb, List.singleton_append,
    scan_mark hmark]
  rfl

end Leaves

mutual

/-- A value is read onto the stack. -/
theorem scan_spells {t : Tree} {cs : List Char} (h : Spells t cs) {s : ReadState}
    {stack : List Frame} (hs : Awaits s stack) (hdepth : stack.length + t.depth ≤ maxDepth)
    {rest : List Char} (hrest : EndsWord rest) :
    StopsIf t.Overlong (scan s .between (cs ++ rest)) (scan ⟨stack, .after t.value⟩ .between rest) := by
  match h with
  | .null =>
      exact stopsIf_of_eq nofun (hs.scan_scalar nofun (List.all_eq_true.1 rfl) rfl hrest)
  | .true =>
      exact stopsIf_of_eq nofun (hs.scan_scalar nofun (List.all_eq_true.1 rfl) rfl hrest)
  | .false =>
      exact stopsIf_of_eq nofun (hs.scan_scalar nofun (List.all_eq_true.1 rfl) rfl hrest)
  | .number n => exact scan_numeral n hs hrest
  | @Spells.text ps ws hps =>
      apply stopsIf_of_eq nofun
      rw [List.append_assoc, List.singleton_append, scan_text hps, hs (.text (textValue ps)) nofun]
      rfl
  | .emptyArray hb =>
      exact stopsIf_of_eq (by simp [Tree.overlong_array]) (scan_emptyArray hb hs hdepth)
  | @Spells.array items ws hitems =>
      have hroom : stack.length < maxDepth := by
        rw [Tree.depth] at hdepth
        omega
      rw [List.append_assoc, List.cons_append, hs.openList hroom]
      exact (scan_items hitems (awaits_firstItem stack) (by rw [Tree.depth] at hdepth; omega)
        rest).congr Tree.overlong_array.symm
  | .emptyObject hb =>
      exact stopsIf_of_eq (by simp [Tree.overlong_object]) (scan_emptyObject hb hs hdepth)
  | @Spells.object members ws hmembers =>
      have hroom : stack.length < maxDepth := by
        rw [Tree.depth] at hdepth
        omega
      rw [List.append_assoc, List.cons_append, hs.openMap hroom]
      exact (scan_members hmembers (awaitsName_firstName stack)
        (by rw [Tree.depth] at hdepth; omega) rest).congr Tree.overlong_object.symm

theorem scan_padded {t : Tree} {cs : List Char} (h : Padded t cs) {s : ReadState}
    {stack : List Frame} (hs : Awaits s stack) (hdepth : stack.length + t.depth ≤ maxDepth)
    {rest : List Char} (hrest : EndsWord rest) :
    StopsIf t.Overlong (scan s .between (cs ++ rest)) (scan ⟨stack, .after t.value⟩ .between rest) := by
  match h with
  | @Padded.mk t b ws b' hb ht hb' =>
      have hvalue := scan_spells ht hs hdepth (endsWord_blank hb' hrest)
      rw [scan_blank hb'] at hvalue
      rwa [List.append_assoc, List.append_assoc, scan_blank hb]

theorem scan_items {items : List Tree} {cs : List Char} (h : SpellsItems items cs) {s : ReadState}
    {stack : List Frame} {seen : List Value} (hs : Awaits s (.items seen :: stack))
    (hdepth : stack.length + 1 + Tree.itemsDepth items ≤ maxDepth) (rest : List Char) :
    StopsIf (∃ t ∈ items, t.Overlong) (scan s .between (cs ++ ([']'] ++ rest)))
      (scan ⟨stack, .after (.list (seen.reverse ++ Tree.itemValues items))⟩ .between rest) := by
  match h with
  | @SpellsItems.last t ws ht =>
      have hvalue := scan_padded ht hs (by rw [Tree.itemsDepth] at hdepth; simp; omega)
        (endsWord_cons (c := ']') rfl rest)
      rw [scan_closeList, List.reverse_cons] at hvalue
      exact hvalue.congr (by simp)
  | @SpellsItems.cons t items ws ds ht hitems =>
      have hvalue := scan_padded ht hs (by rw [Tree.itemsDepth] at hdepth; simp; omega)
        (endsWord_cons (c := ',') rfl (ds ++ ([']'] ++ rest)))
      have hmore := scan_items hitems (awaits_value (.items (t.value :: seen) :: stack))
        (by rw [Tree.itemsDepth] at hdepth; omega) rest
      rw [scan_nextItem] at hvalue
      rw [List.reverse_cons, List.append_assoc] at hmore
      rw [List.append_assoc, List.cons_append]
      exact (hvalue.trans hmore).congr (by simp)

theorem scan_member {m : List Piece × Tree} {cs : List Char} (h : SpellsMember m cs)
    {s : ReadState} {stack : List Frame} {seen : Table Value} (hs : AwaitsName s stack seen)
    (hdepth : stack.length + 1 + m.2.depth ≤ maxDepth) {rest : List Char} (hrest : EndsWord rest) :
    StopsIf m.2.Overlong (scan s .between (cs ++ rest))
      (scan ⟨.entries seen (textValue m.1) :: stack, .after m.2.value⟩ .between rest) := by
  match h with
  | @SpellsMember.mk name t b ns b' ws hb hname hb' ht =>
      have hvalue := scan_padded ht (awaits_value (.entries seen (textValue name) :: stack))
        (by simpa using hdepth) hrest
      apply hvalue.of_eq
      have hchars : b ++ '"' :: ns ++ '"' :: b' ++ ':' :: ws ++ rest =
          b ++ ('"' :: ns ++ '"' :: (b' ++ ':' :: (ws ++ rest))) := by simp
      rw [hchars, scan_blank hb, scan_text hname, hs, Option.bind_some, scan_blank hb', scan_colon]

theorem scan_members {members : List (List Piece × Tree)} {cs : List Char}
    (h : SpellsMembers members cs) {s : ReadState} {stack : List Frame} {seen : Table Value}
    (hs : AwaitsName s stack seen)
    (hdepth : stack.length + 1 + Tree.membersDepth members ≤ maxDepth) (rest : List Char) :
    StopsIf (∃ m ∈ members, m.2.Overlong) (scan s .between (cs ++ (['}'] ++ rest)))
      (scan ⟨stack, .after (.map (Table.putAll seen (Tree.memberValues members)))⟩ .between rest) := by
  match h with
  | @SpellsMembers.last m ws hm =>
      have hvalue := scan_member hm hs (by rw [Tree.membersDepth] at hdepth; omega)
        (endsWord_cons (c := '}') rfl rest)
      rw [scan_closeMap] at hvalue
      exact hvalue.congr (by simp)
  | @SpellsMembers.cons m members ws ds hm hmembers =>
      have hvalue := scan_member hm hs (by rw [Tree.membersDepth] at hdepth; omega)
        (endsWord_cons (c := ',') rfl (ds ++ (['}'] ++ rest)))
      have hmore := scan_members hmembers
        (awaitsName_name stack (seen.put (textValue m.1) m.2.value))
        (by rw [Tree.membersDepth] at hdepth; omega) rest
      rw [scan_nextName] at hvalue
      rw [List.append_assoc, List.cons_append]
      exact (hvalue.trans hmore).congr (by simp)

end

/-- A whole text is read to the value of its tree, or not at all if an integer in it has too many
digits. -/
theorem read?_of_padded {t : Tree} {cs : List Char} (h : Padded t cs) (hdepth : t.depth ≤ maxDepth) :
    StopsIf t.Overlong (read? (codesOf cs)) (some t.value) := by
  have hend : EndsWord [] := nofun
  have hscan := scan_padded h (awaits_value []) (by simpa using hdepth) hend
  rw [List.append_nil] at hscan
  exact hscan

end ParamGate.Json
