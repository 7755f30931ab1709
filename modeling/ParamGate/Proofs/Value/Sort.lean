import ParamGate.Value.Sort
import ParamGate.Proofs.Outcome

/-!
# What sorting keeps

Sorting changes the order of items and nothing else (`sortUp_perm`). Which comparisons it makes
depends on the items, but if any two of them can be compared it gives a result (`sortUp_eq_ok`), and
its faults are those of its comparisons (`sortUp_eq_error`). Texts can be compared with each other,
and so can sequences of texts (`compareItems_texts`), so texts and nothing else can be sorted and
joined (`sortedTexts_eq_ok_iff`).
-/

namespace ParamGate

section Sorting

variable {α : Type} {below : α → α → Except Fault Bool}

/-! ## Items that are kept -/

theorem takeRun_append {last : α} {xs run rest : List α}
    (h : takeRun below last xs = .ok (run, rest)) : run ++ rest = xs := by
  induction xs generalizing last run rest with
  | nil =>
      obtain ⟨rfl, rfl⟩ := Prod.mk.inj (Except.ok.inj h)
      rfl
  | cons x xs ih =>
      rw [takeRun] at h
      obtain ⟨goes, -, h⟩ := bind_eq_ok_iff.1 h
      cases goes with
      | true =>
          obtain ⟨⟨more, others⟩, hmore, h⟩ := bind_eq_ok_iff.1 h
          obtain ⟨rfl, rfl⟩ := Prod.mk.inj (Except.ok.inj h)
          rw [List.cons_append, ih hmore]
      | false =>
          obtain ⟨rfl, rfl⟩ := Prod.mk.inj (Except.ok.inj h)
          rfl

/-- Wherever an item is put, the others stay around it. -/
theorem put_perm (place : Nat) (x : α) (sorted : List α) :
    (sorted.take place ++ x :: sorted.drop place).Perm (x :: sorted) := by
  have hmiddle : (sorted.take place ++ x :: sorted.drop place).Perm
      (x :: (sorted.take place ++ sorted.drop place)) := List.perm_middle
  rwa [List.take_append_drop] at hmiddle

theorem insertAll_perm {sorted xs ys : List α} (h : insertAll below sorted xs = .ok ys) :
    ys.Perm (sorted ++ xs) := by
  induction xs generalizing sorted with
  | nil =>
      obtain rfl := Except.ok.inj h
      rw [List.append_nil]
  | cons x xs ih =>
      rw [insertAll] at h
      obtain ⟨place, -, h⟩ := bind_eq_ok_iff.1 h
      exact (ih h).trans (((put_perm place x sorted).append_right xs).trans
        List.perm_middle.symm)

/-- Sorting gives the same items in another order. -/
theorem sortUp_perm {xs ys : List α} (h : sortUp below xs = .ok ys) : ys.Perm xs := by
  unfold sortUp at h
  split at h
  · rename_i x y rest
    obtain ⟨downwards, -, h⟩ := bind_eq_ok_iff.1 h
    cases downwards with
    | true =>
        obtain ⟨⟨run, others⟩, hrun, h⟩ := bind_eq_ok_iff.1 h
        have hall := (insertAll_perm h).trans ((List.reverse_perm _).append_right others)
        rwa [List.cons_append, List.cons_append, takeRun_append hrun] at hall
    | false =>
        obtain ⟨⟨run, others⟩, hrun, h⟩ := bind_eq_ok_iff.1 h
        have hall := insertAll_perm h
        rwa [List.cons_append, List.cons_append, takeRun_append hrun] at hall
  · obtain rfl := Except.ok.inj h
    exact List.Perm.refl _

/-! ## Comparisons that are made -/

/-- Any two items with the property can be compared. -/
def Compares (P : α → Prop) (below : α → α → Except Fault Bool) : Prop :=
  ∀ a b, P a → P b → ∃ r, below a b = .ok r

variable {P : α → Prop}

theorem takeRun_eq_ok (hP : Compares P below) {last : α} {xs : List α} (hlast : P last)
    (hxs : ∀ x ∈ xs, P x) : ∃ run, takeRun below last xs = .ok run := by
  induction xs generalizing last with
  | nil => exact ⟨_, rfl⟩
  | cons x xs ih =>
      have hx := hxs x List.mem_cons_self
      obtain ⟨goes, hgoes⟩ := hP x last hx hlast
      obtain ⟨run, hrun⟩ := ih hx fun w hw => hxs w (List.mem_cons_of_mem x hw)
      rw [takeRun, hgoes, ok_bind]
      cases goes with
      | true => exact ⟨_, by rw [if_pos rfl, hrun, ok_bind]⟩
      | false => exact ⟨_, rfl⟩

theorem placeOf_eq_ok (hP : Compares P below) {x : α} {sorted : List α} (hx : P x)
    (hsorted : ∀ y ∈ sorted, P y) (low high : Nat) :
    ∃ place, placeOf below x sorted low high = .ok place := by
  fun_induction placeOf below x sorted low high with
  | case1 low high h middle hnone => exact ⟨low, rfl⟩
  | case2 low high h middle y hy ih₁ ih₂ =>
      obtain ⟨under, hunder⟩ := hP x y hx (hsorted y (List.mem_of_getElem? hy))
      rw [hunder, ok_bind]
      cases under with
      | true => exact ih₁
      | false => exact ih₂
  | case3 low high h => exact ⟨low, rfl⟩

theorem insertAll_eq_ok (hP : Compares P below) {sorted xs : List α}
    (hsorted : ∀ y ∈ sorted, P y) (hxs : ∀ x ∈ xs, P x) :
    ∃ ys, insertAll below sorted xs = .ok ys := by
  induction xs generalizing sorted with
  | nil => exact ⟨_, rfl⟩
  | cons x xs ih =>
      have hx := hxs x List.mem_cons_self
      obtain ⟨place, hplace⟩ := placeOf_eq_ok hP hx hsorted 0 sorted.length
      rw [insertAll, hplace, ok_bind]
      refine ih ?_ fun w hw => hxs w (List.mem_cons_of_mem x hw)
      intro y hy
      rcases List.mem_cons.1 ((put_perm place x sorted).mem_iff.1 hy) with rfl | hy
      · exact hx
      · exact hsorted y hy

/-- Whichever run the first items begin, the items after it can be put in their places. -/
theorem insertAfterRun_eq_ok (hP : Compares P below) {goesOn : α → α → Except Fault Bool}
    (hgoes : Compares P goesOn) {x y : α} {rest : List α} (hxs : ∀ w ∈ x :: y :: rest, P w)
    (start : List α → List α) (hstart : ∀ run, (start run).Perm (x :: y :: run)) :
    ∃ ys, (takeRun goesOn y rest >>= fun run => insertAll below (start run.1) run.2) = .ok ys := by
  have hrest : ∀ w ∈ rest, P w := fun w hw => hxs w (by simp [hw])
  obtain ⟨⟨run, others⟩, hrun⟩ := takeRun_eq_ok hgoes (hxs y (by simp)) hrest
  have hall : ∀ w ∈ (x :: y :: run) ++ others, P w := by
    rw [List.cons_append, List.cons_append, takeRun_append hrun]
    exact hxs
  rw [hrun, ok_bind]
  refine insertAll_eq_ok hP ?_ fun w hw => hall w (List.mem_append_right _ hw)
  intro w hw
  exact hall w (List.mem_append_left others ((hstart run).mem_iff.1 hw))

/-- Items that can be compared with each other can be sorted. -/
theorem sortUp_eq_ok (hP : Compares P below) {xs : List α} (hxs : ∀ x ∈ xs, P x) :
    ∃ ys, sortUp below xs = .ok ys := by
  match xs with
  | [] => exact ⟨_, rfl⟩
  | [x] => exact ⟨_, rfl⟩
  | x :: y :: rest =>
      obtain ⟨downwards, hdownwards⟩ := hP y x (hxs y (by simp)) (hxs x (by simp))
      rw [sortUp, hdownwards, ok_bind]
      cases downwards with
      | true =>
          exact insertAfterRun_eq_ok hP hP hxs (fun run => (x :: y :: run).reverse) fun run =>
            List.reverse_perm _
      | false =>
          refine insertAfterRun_eq_ok hP ?_ hxs (fun run => x :: y :: run) fun run =>
            List.Perm.refl _
          intro a b ha hb
          obtain ⟨r, hr⟩ := hP a b ha hb
          exact ⟨!r, by simp [hr]⟩

/-! ## Faults of comparisons -/

/-- A property that every fault of a comparison has. -/
def FaultsSatisfy (Q : Fault → Prop) (below : α → α → Except Fault Bool) : Prop :=
  ∀ a b fault, below a b = .error fault → Q fault

variable {Q : Fault → Prop}

theorem takeRun_eq_error (hQ : FaultsSatisfy Q below) {last : α} {xs : List α} {fault : Fault}
    (h : takeRun below last xs = .error fault) : Q fault := by
  induction xs generalizing last with
  | nil => simp [takeRun] at h
  | cons x xs ih =>
      rw [takeRun] at h
      rcases bind_eq_error_iff.1 h with h | ⟨goes, -, h⟩
      · exact hQ x last fault h
      · cases goes with
        | true =>
            rcases bind_eq_error_iff.1 h with h | ⟨run, -, h⟩
            · exact ih h
            · simp at h
        | false => simp at h

theorem placeOf_eq_error (hQ : FaultsSatisfy Q below) {x : α} {sorted : List α} {low high : Nat}
    {fault : Fault} (h : placeOf below x sorted low high = .error fault) : Q fault := by
  fun_induction placeOf below x sorted low high with
  | case1 low high _ middle _ => simp at h
  | case2 low high _ middle y _ ihLow ihHigh =>
      rcases bind_eq_error_iff.1 h with h | ⟨under, -, h⟩
      · exact hQ x y fault h
      · cases under with
        | true => exact ihLow h
        | false => exact ihHigh h
  | case3 low high _ => simp at h

theorem insertAll_eq_error (hQ : FaultsSatisfy Q below) {sorted xs : List α} {fault : Fault}
    (h : insertAll below sorted xs = .error fault) : Q fault := by
  induction xs generalizing sorted with
  | nil => simp [insertAll] at h
  | cons x xs ih =>
      rw [insertAll] at h
      rcases bind_eq_error_iff.1 h with h | ⟨place, -, h⟩
      · exact placeOf_eq_error hQ h
      · exact ih h

theorem insertAfterRun_eq_error (hQ : FaultsSatisfy Q below) {goesOn : α → α → Except Fault Bool}
    (hgoes : FaultsSatisfy Q goesOn) (start : List α → List α) {y : α} {rest : List α}
    {fault : Fault}
    (h : (takeRun goesOn y rest >>= fun run => insertAll below (start run.1) run.2) =
      .error fault) : Q fault := by
  rcases bind_eq_error_iff.1 h with h | ⟨run, -, h⟩
  · exact takeRun_eq_error hgoes h
  · exact insertAll_eq_error hQ h

/-- Sorting has no other faults than its comparisons. -/
theorem sortUp_eq_error (hQ : FaultsSatisfy Q below) {xs : List α} {fault : Fault}
    (h : sortUp below xs = .error fault) : Q fault := by
  unfold sortUp at h
  split at h
  · rename_i x y rest
    rcases bind_eq_error_iff.1 h with h | ⟨downwards, -, h⟩
    · exact hQ y x fault h
    · cases downwards with
      | true => exact insertAfterRun_eq_error hQ hQ (fun run => (x :: y :: run).reverse) h
      | false =>
          refine insertAfterRun_eq_error hQ ?_ (fun run => x :: y :: run) h
          intro a b other hother
          exact hQ a b other (map_eq_error_iff.1 hother)
  · simp at h

end Sorting

namespace Value

/-! ## Texts -/

/-- Texts are compared by their codes. -/
theorem compare_text {v w : Value} {s t : List Nat} (hv : v.codes? = some s)
    (hw : w.codes? = some t) (c : Comparison) : compare c v w = .ok (c.codes s t) := by
  cases v with
  | string _ | illFormed _ | kind _ =>
      cases w with
      | string _ | illFormed _ | kind _ => simp [compare, position?, hv, hw]
      | _ => simp [codes?] at hw
  | _ => simp [codes?] at hv

/-- Values that were joined to a text are texts. -/
theorem codes?_of_texts {index : Nat} {vs : List Value} {ts : List Text.Codes}
    (h : texts index vs = .ok ts) {v : Value} (hv : v ∈ vs) : ∃ s, v.codes? = some s := by
  induction vs generalizing index ts with
  | nil => simp at hv
  | cons w vs ih =>
      rw [texts] at h
      split at h
      · simp at h
      · rename_i s hs
        obtain ⟨rest, hrest, -⟩ := map_eq_ok_iff.1 h
        rcases List.mem_cons.1 hv with rfl | hv
        · exact ⟨s, hs⟩
        · exact ih hrest hv

/-- Texts can be joined. -/
theorem texts_eq_ok (index : Nat) {vs : List Value} (h : ∀ v ∈ vs, ∃ s, v.codes? = some s) :
    ∃ ts, texts index vs = .ok ts := by
  induction vs generalizing index with
  | nil => exact ⟨[], rfl⟩
  | cons v vs ih =>
      obtain ⟨s, hs⟩ := h v List.mem_cons_self
      -- the index is only needed for a fault, so it may be any
      obtain ⟨ts, hts⟩ := ih (index + 1) fun w hw => h w (List.mem_cons_of_mem v hw)
      exact ⟨s :: ts, by rw [texts, hs]; simp [hts]⟩

theorem texts_eq_ok_iff {index : Nat} {vs : List Value} :
    (∃ ts, texts index vs = .ok ts) ↔ ∀ v ∈ vs, ∃ s, v.codes? = some s := by
  constructor
  · rintro ⟨ts, h⟩ v hv
    exact codes?_of_texts h hv
  · exact texts_eq_ok index

/-- Joining has no other fault than that an item is no text. -/
theorem texts_eq_error {index : Nat} {vs : List Value} {fault : Fault}
    (h : texts index vs = .error fault) : ∃ place type, fault = .notText place type := by
  induction vs generalizing index with
  | nil => simp [texts] at h
  | cons v vs ih =>
      rw [texts] at h
      split at h
      · exact ⟨_, _, (Except.error.inj h).symm⟩
      · exact ih (map_eq_error_iff.1 h)

/-! ## Faults of comparisons of values -/

mutual

/-- A comparison has no other fault than that two values have no order. -/
theorem compare_eq_error (c : Comparison) (v w : Value) {fault : Fault}
    (h : compare c v w = .error fault) :
    ∃ left right, fault = .notOrdered c.sign left right := by
  unfold compare at h
  split at h
  · rename_i vs ws
    exact compareItems_eq_error c vs ws h
  · rename_i vs ws
    exact compareItems_eq_error c vs ws h
  · simp at h
  · -- numbers and texts are compared, and anything else is refused
    split at h
    · simp at h
    · split at h
      · simp at h
      · exact ⟨_, _, (Except.error.inj h).symm⟩

theorem compareItems_eq_error (c : Comparison) (vs ws : List Value) {fault : Fault}
    (h : compareItems c vs ws = .error fault) :
    ∃ left right, fault = .notOrdered c.sign left right := by
  unfold compareItems at h
  split at h
  · rename_i v rest w rest'
    split at h
    · exact compareItems_eq_error c rest rest' h
    · exact compare_eq_error c v w h
  · simp at h

end

/-- Names cannot be sorted and joined when one of them is no text. -/
theorem sortedTexts_eq_ok_iff {vs : List Value} :
    (∃ ts, sortedTexts vs = .ok ts) ↔ ∀ v ∈ vs, ∃ s, v.codes? = some s := by
  constructor
  · rintro ⟨ts, h⟩ v hv
    obtain ⟨sorted, hsorted, h⟩ := bind_eq_ok_iff.1 h
    exact codes?_of_texts h ((sortUp_perm hsorted).mem_iff.2 hv)
  · intro h
    have hcompares : Compares (fun v : Value => ∃ s, v.codes? = some s) (compare .less) := by
      rintro v w ⟨s, hs⟩ ⟨t, ht⟩
      exact ⟨_, compare_text hs ht .less⟩
    obtain ⟨sorted, hsorted⟩ := sortUp_eq_ok hcompares h
    obtain ⟨ts, hts⟩ := texts_eq_ok 0 fun v hv => h v ((sortUp_perm hsorted).mem_iff.1 hv)
    exact ⟨ts, by rw [sortedTexts, hsorted, ok_bind, hts]⟩

end Value

end ParamGate
