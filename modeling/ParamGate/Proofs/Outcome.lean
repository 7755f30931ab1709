import Mathlib.Data.List.Forall2
import ParamGate.Exchange.Basic

/-!
# Outcomes of computations

A computation that may have a fault gives a value exactly when each of its steps does. The lemmas
here take such a computation apart at its first step, for plain outcomes and for runs on a state,
so that later proofs never unfold the monads.
-/

namespace ParamGate

section Except

variable {α β : Type}

@[simp] theorem ok_bind (a : α) (f : α → Except Fault β) : ((.ok a : Except Fault α) >>= f) = f a :=
  rfl

@[simp] theorem error_bind (fault : Fault) (f : α → Except Fault β) :
    ((.error fault : Except Fault α) >>= f) = .error fault :=
  rfl

@[simp] theorem map_ok (f : α → β) (a : α) : Except.map f (.ok a : Except Fault α) = .ok (f a) :=
  rfl

@[simp] theorem map_error (f : α → β) (fault : Fault) :
    Except.map f (.error fault : Except Fault α) = .error fault :=
  rfl

/-- Two steps give a value when the first gives one from which the second does. -/
theorem bind_eq_ok_iff {x : Except Fault α} {f : α → Except Fault β} {b : β} :
    (x >>= f) = .ok b ↔ ∃ a, x = .ok a ∧ f a = .ok b := by
  cases x with
  | ok a => simp
  | error fault => simp

/-- Two steps have a fault when the first has it, or the second after the first. -/
theorem bind_eq_error_iff {x : Except Fault α} {f : α → Except Fault β} {fault : Fault} :
    (x >>= f) = .error fault ↔ x = .error fault ∨ ∃ a, x = .ok a ∧ f a = .error fault := by
  cases x with
  | ok a => simp
  | error fault => simp

theorem map_eq_ok_iff {x : Except Fault α} {f : α → β} {b : β} :
    Except.map f x = .ok b ↔ ∃ a, x = .ok a ∧ f a = b := by
  cases x with
  | ok a => simp
  | error fault => simp

theorem map_eq_error_iff {x : Except Fault α} {f : α → β} {fault : Fault} :
    Except.map f x = .error fault ↔ x = .error fault := by
  cases x with
  | ok a => simp
  | error fault => simp

/-! ## Lists of computations -/

theorem mapM_cons (f : α → Except Fault β) (x : α) (xs : List α) :
    (x :: xs).mapM f = f x >>= fun y => xs.mapM f >>= fun ys => .ok (y :: ys) :=
  List.mapM_cons

/-- Every value of a list of computations is the value of one of them. -/
theorem mem_of_mapM {f : α → Except Fault β} {xs : List α} {ys : List β}
    (h : xs.mapM f = .ok ys) {y : β} (hy : y ∈ ys) : ∃ x ∈ xs, f x = .ok y := by
  induction xs generalizing ys with
  | nil =>
      obtain rfl := Except.ok.inj h
      simp at hy
  | cons x xs ih =>
      rw [mapM_cons] at h
      obtain ⟨z, hz, h⟩ := bind_eq_ok_iff.1 h
      obtain ⟨zs, hzs, h⟩ := bind_eq_ok_iff.1 h
      obtain rfl := Except.ok.inj h
      -- the value is that of the head, or the rest has it by induction
      rcases List.mem_cons.1 hy with rfl | hy
      · exact ⟨x, List.mem_cons_self, hz⟩
      · obtain ⟨w, hw, hwy⟩ := ih hzs hy
        exact ⟨w, List.mem_cons_of_mem x hw, hwy⟩

/-- A list of computations gives the values that its members are related to. -/
theorem mapM_eq_ok_iff_forall₂ {R : α → β → Prop} {f : α → Except Fault β}
    {xs : List α} {ys : List β} (h : ∀ x ∈ xs, ∀ y, f x = .ok y ↔ R x y) :
    xs.mapM f = .ok ys ↔ List.Forall₂ R xs ys := by
  induction xs generalizing ys with
  | nil =>
      rw [List.forall₂_nil_left_iff]
      exact ⟨fun hm => (Except.ok.inj hm).symm, fun hys => by rw [hys]; rfl⟩
  | cons x xs ih =>
      obtain ⟨hx, hxs⟩ := List.forall_mem_cons.1 h
      rw [mapM_cons, List.forall₂_cons_left_iff, bind_eq_ok_iff]
      constructor
      · rintro ⟨y, hy, hm⟩
        obtain ⟨zs, hzs, hm⟩ := bind_eq_ok_iff.1 hm
        exact ⟨y, zs, (hx y).1 hy, (ih hxs).1 hzs, (Except.ok.inj hm).symm⟩
      · rintro ⟨y, zs, hy, hzs, rfl⟩
        exact ⟨y, (hx y).2 hy, by rw [(ih hxs).2 hzs, ok_bind]⟩

end Except

namespace Run

variable {σ α β : Type}

@[simp] theorem exec_get (s : σ) : (get : Run σ σ).exec s = (.ok s, s) := rfl

/-- A step whose outcome is known hands its value and its state to the next one. -/
theorem exec_bind_of_ok {x : Run σ α} {f : α → Run σ β} {s t : σ} {a : α}
    (h : x.exec s = (.ok a, t)) : (x >>= f).exec s = (f a).exec t := by
  rw [exec_bind, h]

/-- A step with a fault ends the run in the state that it reached. -/
theorem exec_bind_of_error {x : Run σ α} {f : α → Run σ β} {s t : σ} {fault : Fault}
    (h : x.exec s = (.error fault, t)) : (x >>= f).exec s = (.error fault, t) := by
  rw [exec_bind, h]

/-- Two steps reach a value when the first reaches one from which the second does. -/
theorem exec_bind_eq_ok_iff {x : Run σ α} {f : α → Run σ β} {s u : σ} {b : β} :
    (x >>= f).exec s = (.ok b, u) ↔
      ∃ a t, x.exec s = (.ok a, t) ∧ (f a).exec t = (.ok b, u) := by
  rw [exec_bind]
  cases hx : x.exec s with
  | mk outcome t =>
      cases outcome with
      | ok a =>
          constructor
          · intro h
            exact ⟨a, t, rfl, h⟩
          · rintro ⟨a', t', he, h⟩
            -- the first step has one outcome, so the given state is the one it reached
            obtain ⟨ha, rfl⟩ := Prod.mk.inj he
            rwa [Except.ok.inj ha]
      | error fault => simp

theorem exec_onEvents (x : Run (List Event) α) (e : Exchange) :
    x.onEvents.exec e = ((x.exec e.events).1, { e with events := (x.exec e.events).2 }) :=
  rfl

end Run

end ParamGate
