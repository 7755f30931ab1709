import ParamGate.Proofs.Outcome
import ParamGate.Proofs.Parameter.Check
import ParamGate.Proofs.Value.Table

/-!
# The problems of all parameters

Without validate hooks a check asks nobody, so its problems are a function of the values alone:
`inspectAll`. It collects the findings about the single values (`mem_inspectAll`), has a fault
exactly when the check of one of them has (`inspectAll_fault_iff`), and accepts only when it finds
nothing about any of them (`inspectAll_eq_nil`).

The report of such problems is written as JSON unless a bound in it has no JSON text
(`write_report_eq_ok_iff`).
-/

namespace ParamGate

/-- The problems of parameters without validate hooks. -/
def inspectAll (params : Table Value) : Table Definition → Except Fault Problems
  | [] => .ok []
  | (name, d) :: rest => do
      let found ← inspect d (valueOf params name)
      let others ← inspectAll params rest
      .ok (found.toList.map (name, ·) ++ others)

section Collect

variable {params : Table Value} {declared : Table Definition} {problems : Problems}

/-- Problems are the findings about the values of declared parameters. -/
theorem mem_inspectAll (h : inspectAll params declared = .ok problems) {name : Value}
    {p : Problem} :
    (name, p) ∈ problems ↔
      ∃ d, (name, d) ∈ declared ∧ inspect d (valueOf params name) = .ok (some p) := by
  induction declared generalizing problems with
  | nil =>
      obtain rfl := Except.ok.inj h
      simp
  | cons entry declared ih =>
      obtain ⟨n, d⟩ := entry
      obtain ⟨found, hfound, h⟩ := bind_eq_ok_iff.1 h
      obtain ⟨others, hothers, h⟩ := bind_eq_ok_iff.1 h
      obtain rfl := Except.ok.inj h
      -- the finding about the head comes first, and the others come from the rest
      rw [List.mem_append, ih hothers]
      constructor
      · rintro (hp | ⟨d', hd, hp⟩)
        · obtain ⟨q, hq, he⟩ := List.mem_map.1 hp
          obtain ⟨rfl, rfl⟩ := Prod.mk.inj he
          rw [Option.mem_toList.1 hq] at hfound
          exact ⟨d, List.mem_cons_self, hfound⟩
        · exact ⟨d', List.mem_cons_of_mem _ hd, hp⟩
      · rintro ⟨d', hd, hp⟩
        rcases List.mem_cons.1 hd with he | hd
        · obtain ⟨rfl, rfl⟩ := Prod.mk.inj he
          rw [hfound] at hp
          refine Or.inl (List.mem_map.2 ⟨p, ?_, rfl⟩)
          exact Option.mem_toList.2 (Except.ok.inj hp)
        · exact Or.inr ⟨d', hd, hp⟩

/-- Every value was checked, whatever is found. -/
theorem inspectAll_eq_ok (h : inspectAll params declared = .ok problems)
    {entry : Value × Definition} (he : entry ∈ declared) :
    ∃ found, inspect entry.2 (valueOf params entry.1) = .ok found := by
  induction declared generalizing problems with
  | nil => simp at he
  | cons head declared ih =>
      obtain ⟨n, d⟩ := head
      obtain ⟨found, hfound, h⟩ := bind_eq_ok_iff.1 h
      obtain ⟨others, hothers, h⟩ := bind_eq_ok_iff.1 h
      rcases List.mem_cons.1 he with rfl | he
      · exact ⟨found, hfound⟩
      · exact ih hothers he

/-- Parameters without problems are those about which nothing is found. -/
theorem inspectAll_eq_nil (h : inspectAll params declared = .ok []) {entry : Value × Definition}
    (he : entry ∈ declared) : inspect entry.2 (valueOf params entry.1) = .ok none := by
  obtain ⟨found, hfound⟩ := inspectAll_eq_ok h he
  -- a problem that was found would be in the empty list
  cases found with
  | none => exact hfound
  | some p => exact absurd ((mem_inspectAll h).2 ⟨entry.2, he, hfound⟩) (by simp)

theorem inspectAll_fault_iff :
    (∃ fault, inspectAll params declared = .error fault) ↔
      ∃ entry ∈ declared, ∃ fault, inspect entry.2 (valueOf params entry.1) = .error fault := by
  induction declared with
  | nil => simp [inspectAll]
  | cons head declared ih =>
      obtain ⟨n, d⟩ := head
      simp only [List.mem_cons, exists_eq_or_imp, ← ih]
      rw [inspectAll]
      -- a fault at the head hides what the rest does, so the head is decided first
      cases inspect d (valueOf params n) with
      | error fault => simp
      | ok found =>
          cases inspectAll params declared with
          | error fault => simp
          | ok others => simp

end Collect

/-! ## Checks that ask no hook -/

section Check

variable {hooks : Hooks} {params : Table Value} {declared : Table Definition}
  {events : List Event}

theorem check_cons (name : Value) (d : Definition) :
    check hooks params ((name, d) :: declared) =
      checkValue hooks name d (valueOf params name) >>= fun found =>
        check hooks params declared >>= fun others =>
          pure (found.toList.map (name, ·) ++ others) := by
  rw [check]
  apply bind_congr
  intro found
  apply bind_congr
  intro others
  cases found with
  | none => rfl
  | some p => rfl

theorem checkValue_exec_of_null (hooks : Hooks) (name value : Value) (events : List Event)
    {d : Definition} (h : d.validate = .null) :
    (checkValue hooks name d value).exec events = (inspect d value, events) := by
  rw [checkValue, h]
  rfl

/-- A check without validate hooks gives the problems of the values and no event. -/
theorem check_exec_of_null (hooks : Hooks) (params : Table Value) (events : List Event)
    (h : ∀ entry ∈ declared, entry.2.validate = .null) :
    (check hooks params declared).exec events = (inspectAll params declared, events) := by
  induction declared with
  | nil => rfl
  | cons head declared ih =>
      obtain ⟨n, d⟩ := head
      have hd := checkValue_exec_of_null hooks n (valueOf params n) events
        (h (n, d) List.mem_cons_self)
      have hrest := ih fun entry he => h entry (List.mem_cons_of_mem _ he)
      rw [check_cons, inspectAll]
      -- both sides go on or stop at the same parameter, and no event is added on the way
      cases hf : inspect d (valueOf params n) with
      | error fault => exact Run.exec_bind_of_error (hd.trans (by rw [hf]))
      | ok found =>
          rw [Run.exec_bind_of_ok (hd.trans (by rw [hf])), ok_bind]
          cases ho : inspectAll params declared with
          | error fault => exact Run.exec_bind_of_error (hrest.trans (by rw [ho]))
          | ok others => exact Run.exec_bind_of_ok (hrest.trans (by rw [ho]))

/-- What is in the place of a validate hook and cannot be called stops the check. -/
theorem null_of_checkValue_eq_ok {name value : Value} {d : Definition} {found : Option Problem}
    {events' : List Event} (hd : d.validate.isCallable = false)
    (h : (checkValue hooks name d value).exec events = (.ok found, events')) :
    d.validate = .null := by
  unfold checkValue at h
  split at h
  · rename_i hn
    cases hv : d.validate with
    | null => rfl
    | _ => simp [hv, Value.isNull] at hn
  -- asking what cannot be called is a fault, but the check ended without one
  · exfalso
    obtain ⟨verdict, events₁, hj, -⟩ := Run.exec_bind_eq_ok_iff.1 h
    cases hv : d.validate with
    | hook k => simp [hv, Value.isCallable] at hd
    | _ => simp [hv, Hooks.judge] at hj

/-- A check that ends where nothing in the place of a validate hook can be called met no such
thing. -/
theorem null_of_check_eq_ok {problems : Problems} {events' : List Event}
    (hc : ∀ entry ∈ declared, entry.2.validate.isCallable = false)
    (h : (check hooks params declared).exec events = (.ok problems, events')) :
    ∀ entry ∈ declared, entry.2.validate = .null := by
  induction declared generalizing problems events events' with
  | nil => simp
  | cons head declared ih =>
      obtain ⟨n, d⟩ := head
      rw [check_cons] at h
      obtain ⟨found, events₁, hv, h⟩ := Run.exec_bind_eq_ok_iff.1 h
      obtain ⟨others, events₂, hr, -⟩ := Run.exec_bind_eq_ok_iff.1 h
      intro entry he
      rcases List.mem_cons.1 he with rfl | he
      · exact null_of_checkValue_eq_ok (hc (n, d) List.mem_cons_self) hv
      · exact ih (fun e hm => hc e (List.mem_cons_of_mem _ hm)) hr entry he

end Check

/-! ## What a check leaves behind -/

/-- The event that a validate hook was asked. -/
def Event.IsJudged (event : Event) : Prop :=
  ∃ hook value name type, event = .judged hook value name type

/-- Runs that leave no events but those of validate hooks that were asked. -/
def OnlyAsks {α : Type} (x : Run (List Event) α) : Prop :=
  ∀ events, ∃ asked, (x.exec events).2 = events ++ asked ∧ ∀ event ∈ asked, event.IsJudged

theorem OnlyAsks.of_silent {α : Type} {x : Run (List Event) α}
    (h : ∀ events, (x.exec events).2 = events) : OnlyAsks x :=
  fun events => ⟨[], by rw [h, List.append_nil], by simp⟩

theorem OnlyAsks.bind {α β : Type} {x : Run (List Event) α} {f : α → Run (List Event) β}
    (hx : OnlyAsks x) (hf : ∀ a, OnlyAsks (f a)) : OnlyAsks (x >>= f) := by
  intro events
  obtain ⟨asked, hasked, hj⟩ := hx events
  rw [Run.exec_bind]
  cases ho : x.exec events with
  | mk outcome after =>
      rw [ho] at hasked
      -- a fault ends the run with the events so far, otherwise those of the second step follow
      cases outcome with
      | error fault => exact ⟨asked, hasked, hj⟩
      | ok a =>
          obtain ⟨more, hmore, hj'⟩ := hf a after
          refine ⟨asked ++ more, ?_, ?_⟩
          · show ((f a).exec after).2 = events ++ (asked ++ more)
            rw [hmore, ← List.append_assoc, ← hasked]
          · intro event he
            rcases List.mem_append.1 he with he | he
            · exact hj event he
            · exact hj' event he

theorem onlyAsks_judge (hooks : Hooks) (h value name : Value) (d : Definition) :
    OnlyAsks (hooks.judge h value name d) := by
  intro events
  cases h with
  | hook k => exact ⟨[_], rfl, by simp [Event.IsJudged]⟩
  | _ => exact ⟨[], (List.append_nil events).symm, by simp⟩

theorem onlyAsks_checkValue (hooks : Hooks) (name value : Value) (d : Definition) :
    OnlyAsks (checkValue hooks name d value) := by
  unfold checkValue
  split
  · exact OnlyAsks.of_silent fun _ => rfl
  · refine (onlyAsks_judge hooks d.validate value name d).bind ?_
    intro verdict
    split
    · exact OnlyAsks.of_silent fun _ => rfl
    · exact OnlyAsks.of_silent fun _ => rfl

/-- Whatever the hooks do, a check leaves no events but those of the hooks it asks. -/
theorem onlyAsks_check (hooks : Hooks) (params : Table Value) (declared : Table Definition) :
    OnlyAsks (check hooks params declared) := by
  induction declared with
  | nil => exact OnlyAsks.of_silent fun _ => rfl
  | cons head declared ih =>
      obtain ⟨n, d⟩ := head
      rw [check_cons]
      exact (onlyAsks_checkValue hooks n _ d).bind fun found =>
        ih.bind fun others => OnlyAsks.of_silent fun _ => rfl

/-! ## Reports -/

/-- The bound that a finding reports. -/
def Finding.bound? : Finding → Option Value
  | .aboveMax bound => some bound
  | .belowMin bound => some bound
  | .notSet => none
  | .custom _ => none

theorem beyond_null (c : Value.Comparison) (quantity : Value) :
    Value.beyond c quantity .null = false :=
  rfl

theorem boundFinding?_eq_some {d : Definition} {entry : Value} {f : Finding}
    (h : boundFinding? d entry = some f) :
    f = .belowMin d.min ∧ d.min ≠ .null ∨ f = .aboveMax d.max ∧ d.max ≠ .null := by
  -- nothing lies beyond a bound that is null, so a bound that is reported is a number
  unfold boundFinding? at h
  split at h
  · split at h
    · split at h
      · rename_i hb
        refine Or.inl ⟨(Option.some.inj h).symm, ?_⟩
        intro hn
        rw [hn, beyond_null] at hb
        simp at hb
      · split at h
        · rename_i hb
          refine Or.inr ⟨(Option.some.inj h).symm, ?_⟩
          intro hn
          rw [hn, beyond_null] at hb
          simp at hb
        · simp at h
    · simp at h
  · simp at h

/-- What is found without a hook: a missing value, or a bound of the definition that is passed. -/
theorem expectedFinding?_eq_some {d : Definition} {value : Value} {f : Finding}
    (h : expectedFinding? d value = some f) :
    f = .notSet ∨ f = .belowMin d.min ∧ d.min ≠ .null ∨ f = .aboveMax d.max ∧ d.max ≠ .null := by
  unfold expectedFinding? at h
  rcases Option.or_eq_some_iff.1 h with h | ⟨-, h⟩
  · obtain ⟨entry, -, he⟩ := List.exists_of_findSome?_eq_some h
    exact Or.inr (boundFinding?_eq_some he)
  · split at h
    · exact Or.inl (Option.some.inj h).symm
    · simp at h

theorem Value.IsBound.write_eq_ok_iff {bound : Value} (h : bound.IsBound) (hn : bound ≠ .null) :
    (∃ s, Json.write bound = .ok s) ↔ ¬ bound.Unwritable :=
  Value.write_number_eq_ok_iff (h.resolve_left hn)

/-- The report of a finding has a JSON text unless it is about a bound that has none. -/
theorem write_problem_eq_ok_iff {d : Definition} (hd : d.Parsed) {value : Value} {p : Problem}
    (hp : expectedFinding? d value = some p.finding) :
    (∃ s, Json.write p.toValue = .ok s) ↔
      ∀ bound, p.finding.bound? = some bound → ¬ bound.Unwritable := by
  rw [Problem.toValue, Value.write_map_eq_ok_iff, List.forall_mem_cons]
  -- of all that a report shows only a bound can be without a JSON text
  rcases expectedFinding?_eq_some hp with hf | ⟨hf, hn⟩ | ⟨hf, hn⟩
  · rw [hf]
    simp [Finding.entries, Finding.bound?]
  · rw [hf]
    simp [Finding.entries, Finding.bound?, hd.min.write_eq_ok_iff hn]
  · rw [hf]
    simp [Finding.entries, Finding.bound?, hd.max.write_eq_ok_iff hn]

end ParamGate
