import ParamGate.Proofs.Binary64.Rounding
import ParamGate.Proofs.Parameter.Problems

/-!
# What a check reports

A check of several parameters goes through them in order of declaration and overwrites what it
found about a parameter before. This module says what is left at the end, without the loops.
`Finds` describes the finding about one value from its last entry that is out of bounds, and
`Reports` adds the verdict of a validate hook. One parameter is one step (`checkValue_reports`); the
whole check (`check_reports`) asks the hooks once each in order and reports every parameter by its
own definition and value.
-/

namespace ParamGate

/-! ## Entries out of bounds -/

/-- The quantity of an entry under a type: the length of a text, or the number itself. -/
inductive Measures : Value → Value → Value → Prop
  | text {entry : Value} {n : Nat} : entry.textLength = .ok n →
      Measures (.kind .string) entry (.int n)
  | number (entry : Value) : Measures (.kind .number) entry entry

theorem measure_eq_some_iff {type entry quantity : Value} :
    measure type entry = .ok (some quantity) ↔ Measures type entry quantity := by
  constructor
  · intro h
    cases type with
    | kind k =>
        cases k with
        | string =>
            rw [measure_string] at h
            obtain ⟨n, hn, hq⟩ := map_eq_ok_iff.1 h
            obtain rfl := Option.some.inj hq
            exact .text hn
        | number =>
            obtain rfl := Option.some.inj (Except.ok.inj h)
            exact .number entry
        | _ => simp [measure] at h
    | _ => simp [measure] at h
  · intro h
    cases h with
    | text hn => rw [measure_string, hn, map_ok]
    | number => exact measure_number entry

/-- A true entry that has a quantity beyond a bound in a direction. -/
structure Beyond (d : Definition) (c : Value.Comparison) (bound entry : Value) : Prop where
  truthy : entry.truthy = true
  bounded : bound ≠ .null
  passes : ∃ quantity, Measures d.type entry quantity ∧ quantity.compare c bound = .ok true

/-- Entries above the upper bound. -/
def AboveMax (d : Definition) (entry : Value) : Prop := Beyond d .greater d.max entry

/-- Entries below the lower bound. -/
def BelowMin (d : Definition) (entry : Value) : Prop := Beyond d .less d.min entry

/-- Entries beyond one of the bounds. -/
def OutOfBounds (d : Definition) (entry : Value) : Prop := BelowMin d entry ∨ AboveMax d entry

theorem beyond_eq_true_iff {c : Value.Comparison} {quantity bound : Value} :
    Value.beyond c quantity bound = true ↔ bound ≠ .null ∧ quantity.compare c bound = .ok true := by
  have hn : bound.isNull = true ↔ bound = .null := Value.isNull_iff
  unfold Value.beyond passes
  cases hb : bound.isNull with
  | true => simp [hn.1 hb]
  | false =>
      have hne : bound ≠ .null := fun h => by simp [hn.2 h] at hb
      rw [if_neg Bool.false_ne_true]
      cases quantity.compare c bound with
      | ok b => simp [hne]
      | error fault => simp

/-- On a true entry with a quantity, being beyond a bound is what the comparison says. -/
theorem beyond_iff {d : Definition} {c : Value.Comparison} {bound entry quantity : Value}
    (ht : entry.truthy = true) (hm : measure d.type entry = .ok (some quantity)) :
    Beyond d c bound entry ↔ Value.beyond c quantity bound = true := by
  rw [beyond_eq_true_iff]
  constructor
  · rintro ⟨-, hb, q, hq, hc⟩
    -- an entry has one quantity under a type
    obtain rfl : q = quantity :=
      Option.some.inj (Except.ok.inj ((measure_eq_some_iff.2 hq).symm.trans hm))
    exact ⟨hb, hc⟩
  · rintro ⟨hb, hc⟩
    exact ⟨ht, hb, quantity, measure_eq_some_iff.1 hm, hc⟩

/-- The finding about an entry is that it is below the lower bound, or else above the upper one, or
else there is none. -/
theorem boundFinding?_cases (d : Definition) (entry : Value) :
    BelowMin d entry ∧ boundFinding? d entry = some (.belowMin d.min) ∨
      ¬ BelowMin d entry ∧ AboveMax d entry ∧ boundFinding? d entry = some (.aboveMax d.max) ∨
      ¬ OutOfBounds d entry ∧ boundFinding? d entry = none := by
  -- without truth or a quantity there is nothing to compare
  have hnone (h : ∀ c bound, ¬ Beyond d c bound entry) (hf : boundFinding? d entry = none) :
      ¬ OutOfBounds d entry ∧ boundFinding? d entry = none :=
    ⟨fun ho => ho.elim (h _ _) (h _ _), hf⟩
  cases ht : entry.truthy with
  | false =>
      refine Or.inr (Or.inr (hnone ?_ ?_))
      · intro c bound hb
        simp [hb.truthy] at ht
      · simp [boundFinding?, ht]
  | true =>
      cases hm : measure d.type entry with
      | error fault =>
          refine Or.inr (Or.inr (hnone ?_ ?_))
          · rintro c bound ⟨-, -, q, hq, -⟩
            simp [measure_eq_some_iff.2 hq] at hm
          · simp [boundFinding?, ht, hm]
      | ok measured =>
          cases measured with
          | none =>
              refine Or.inr (Or.inr (hnone ?_ ?_))
              · rintro c bound ⟨-, -, q, hq, -⟩
                simp [measure_eq_some_iff.2 hq] at hm
              · simp [boundFinding?, ht, hm]
          | some quantity =>
              have hbelow : BelowMin d entry ↔ Value.beyond .less quantity d.min = true :=
                beyond_iff ht hm
              have habove : AboveMax d entry ↔ Value.beyond .greater quantity d.max = true :=
                beyond_iff ht hm
              unfold OutOfBounds boundFinding?
              simp only [ht, hm, hbelow, habove, if_true]
              -- the lower bound is looked at last and hides a finding about the upper one
              cases Value.beyond .less quantity d.min with
              | true => exact Or.inl ⟨rfl, rfl⟩
              | false =>
                  cases Value.beyond .greater quantity d.max with
                  | true => exact Or.inr (Or.inl ⟨Bool.false_ne_true, rfl, rfl⟩)
                  | false => exact Or.inr (Or.inr ⟨by simp, rfl⟩)

/-! ## Findings about one value -/

/-- What is found about the value of a parameter without a validate hook, as the entries of its
report. -/
inductive Finds (d : Definition) (value : Value) : Option (List (Value × Value)) → Prop
  /-- The last entry out of bounds is below the lower bound. -/
  | below {before after : List Value} {entry : Value} :
      checkedEntries value = before ++ entry :: after → BelowMin d entry →
      (∀ e ∈ after, ¬ OutOfBounds d e) →
      Finds d value
        (some [(.string "error", .string "value below min value"), (.string "min", d.min)])
  /-- The last entry out of bounds is above the upper bound alone. -/
  | above {before after : List Value} {entry : Value} :
      checkedEntries value = before ++ entry :: after → AboveMax d entry → ¬ BelowMin d entry →
      (∀ e ∈ after, ¬ OutOfBounds d e) →
      Finds d value
        (some [(.string "error", .string "value exceeds max value"), (.string "max", d.max)])
  /-- No entry is out of bounds, but a required value is missing. -/
  | missing : (∀ e ∈ checkedEntries value, ¬ OutOfBounds d e) → d.required.truthy = true →
      value = .null ∨ value = .list [] → Finds d value (some [(.string "error", .string "not set")])
  /-- No entry is out of bounds, and the value is not required or not missing. -/
  | nothing : (∀ e ∈ checkedEntries value, ¬ OutOfBounds d e) →
      ¬ (d.required.truthy = true ∧ (value = .null ∨ value = .list [])) → Finds d value none

/-- The last entry that is out of bounds decides; two readings of a list agree on it. -/
theorem last_unique {P : Value → Prop} {before before' after after' : List Value}
    {entry entry' : Value} (h : before ++ entry :: after = before' ++ entry' :: after')
    (he : P entry) (ha : ∀ e ∈ after, ¬ P e) (he' : P entry') (ha' : ∀ e ∈ after', ¬ P e) :
    entry = entry' := by
  rcases List.append_eq_append_iff.1 h with ⟨more, rfl, hm⟩ | ⟨more, rfl, hm⟩
  · cases more with
    | nil => exact (List.cons.inj hm).1
    | cons x more =>
        -- the second entry would stand behind the first one
        obtain ⟨-, hm⟩ := List.cons.inj hm
        exact absurd he' (ha entry' (by simp [hm]))
  · cases more with
    | nil => exact (List.cons.inj hm).1.symm
    | cons x more =>
        obtain ⟨-, hm⟩ := List.cons.inj hm
        exact absurd he (ha' entry (by simp [hm]))

/-- A definition and a value leave one finding. -/
theorem Finds.unique {d : Definition} {value : Value} {f g : Option (List (Value × Value))}
    (hf : Finds d value f) (hg : Finds d value g) : f = g := by
  have hmem {before after : List Value} {entry : Value}
      (h : checkedEntries value = before ++ entry :: after) : entry ∈ checkedEntries value := by
    rw [h]
    exact List.mem_append_right before List.mem_cons_self
  cases hf with
  | below h hb ha =>
      cases hg with
      | below _ _ _ => rfl
      | above h' hb' hn' ha' =>
          obtain rfl := last_unique (h.symm.trans h') (Or.inl hb) ha (Or.inr hb') ha'
          exact absurd hb hn'
      | missing hall _ _ => exact absurd (Or.inl hb) (hall _ (hmem h))
      | nothing hall _ => exact absurd (Or.inl hb) (hall _ (hmem h))
  | above h hb hn ha =>
      cases hg with
      | below h' hb' ha' =>
          obtain rfl := last_unique (h.symm.trans h') (Or.inr hb) ha (Or.inl hb') ha'
          exact absurd hb' hn
      | above _ _ _ _ => rfl
      | missing hall _ _ => exact absurd (Or.inr hb) (hall _ (hmem h))
      | nothing hall _ => exact absurd (Or.inr hb) (hall _ (hmem h))
  | missing hall hr hv =>
      cases hg with
      | below h' hb' _ => exact absurd (Or.inl hb') (hall _ (hmem h'))
      | above h' hb' _ _ => exact absurd (Or.inr hb') (hall _ (hmem h'))
      | missing _ _ _ => rfl
      | nothing _ hn => exact absurd ⟨hr, hv⟩ hn
  | nothing hall hn =>
      cases hg with
      | below h' hb' _ => exact absurd (Or.inl hb') (hall _ (hmem h'))
      | above h' hb' _ _ => exact absurd (Or.inr hb') (hall _ (hmem h'))
      | missing _ hr hv => exact absurd ⟨hr, hv⟩ hn
      | nothing _ _ => rfl

theorem lastFinding?_eq_some {d : Definition} {entries : List Value} {f : Finding}
    (h : lastFinding? d entries = some f) :
    ∃ before entry after, entries = before ++ entry :: after ∧ boundFinding? d entry = some f ∧
      ∀ e ∈ after, ¬ OutOfBounds d e := by
  obtain ⟨front, entry, back, hsplit, hf, hfront⟩ := List.findSome?_eq_some_iff.1 h
  refine ⟨back.reverse, entry, front.reverse, ?_, hf, ?_⟩
  · rw [← List.reverse_reverse entries, hsplit]
    simp
  · intro e he
    have hnone := hfront e (List.mem_reverse.1 he)
    rcases boundFinding?_cases d e with ⟨-, hs⟩ | ⟨-, -, hs⟩ | ⟨ho, -⟩
    · simp [hs] at hnone
    · simp [hs] at hnone
    · exact ho

theorem lastFinding?_eq_none {d : Definition} {entries : List Value}
    (h : lastFinding? d entries = none) : ∀ e ∈ entries, ¬ OutOfBounds d e := by
  intro e he
  have hnone := List.findSome?_eq_none_iff.1 h e (List.mem_reverse.2 he)
  rcases boundFinding?_cases d e with ⟨-, hs⟩ | ⟨-, -, hs⟩ | ⟨ho, -⟩
  · simp [hs] at hnone
  · simp [hs] at hnone
  · exact ho

theorem isMissing_iff {value : Value} :
    isMissing value = true ↔ value = .null ∨ value = .list [] := by
  constructor
  · intro h
    unfold isMissing at h
    split at h
    · exact Or.inl rfl
    · exact Or.inr rfl
    · simp at h
  · rintro (rfl | rfl)
    · rfl
    · rfl

/-- The finding that is computed is the one that is described. -/
theorem finds_expected (d : Definition) (value : Value) :
    Finds d value ((expectedFinding? d value).map Finding.entries) := by
  unfold expectedFinding?
  cases hl : lastFinding? d (checkedEntries value) with
  | some f =>
      obtain ⟨before, entry, after, hsplit, hf, hafter⟩ := lastFinding?_eq_some hl
      rcases boundFinding?_cases d entry with ⟨hb, hs⟩ | ⟨hn, ha, hs⟩ | ⟨-, hs⟩
      · obtain rfl : .belowMin d.min = f := Option.some.inj (hs.symm.trans hf)
        exact .below hsplit hb hafter
      · obtain rfl : .aboveMax d.max = f := Option.some.inj (hs.symm.trans hf)
        exact .above hsplit ha hn hafter
      · simp [hs] at hf
  | none =>
      have hall := lastFinding?_eq_none hl
      cases hr : d.required.truthy && isMissing value with
      | true =>
          obtain ⟨hreq, hmiss⟩ := Bool.and_eq_true_iff.1 hr
          exact .missing hall hreq (isMissing_iff.1 hmiss)
      | false =>
          refine .nothing hall ?_
          rintro ⟨hreq, hmiss⟩
          simp [hreq, isMissing_iff.2 hmiss] at hr

/-! ## The report of one parameter -/

/-- A report of a parameter: its type and the entries of a finding. -/
def reportWith (k : Kind) (entries : List (Value × Value)) : Value :=
  .map ((.string "type", .string k.name) :: entries)

/-- What a check reports about a parameter after the events so far. With a validate hook only its
verdict counts, and the hook is asked about the value, the name and the definition. -/
inductive Reports (hooks : Hooks) (past : List Event) (name : Value) (d : Definition)
    (value : Value) : Option Value → Prop
  | refused {h : Hook} {verdict : Value} {k : Kind} : d.validate = .hook h →
      hooks.verdict h past value name d = .ok verdict → verdict.truthy = true → d.type = .kind k →
      Reports hooks past name d value (some (reportWith k [(.string "error", verdict)]))
  | passed {h : Hook} {verdict : Value} : d.validate = .hook h →
      hooks.verdict h past value name d = .ok verdict → verdict.truthy = false →
      Reports hooks past name d value none
  | found {entries : List (Value × Value)} {k : Kind} : d.validate = .null →
      Finds d value (some entries) → d.type = .kind k →
      Reports hooks past name d value (some (reportWith k entries))
  | clear : d.validate = .null → Finds d value none → Reports hooks past name d value none

/-- The question that a check asks about a parameter, if it has a validate hook. -/
def questionOf? (params : Table Value) (entry : Value × Definition) : Option Event :=
  match entry.2.validate with
  | .hook h =>
      some <| .judged h.name (valueOf params entry.1) entry.1 <|
        match entry.2.type with
        | .kind k => .string k.name
        | v => v
  | _ => none

/-- The questions that a check asks, in order of declaration. -/
def questions (params : Table Value) (declared : Table Definition) : List Event :=
  declared.filterMap (questionOf? params)

theorem judge_exec (hooks : Hooks) (h : Hook) (value name : Value) (d : Definition)
    (events : List Event) :
    (hooks.judge (.hook h) value name d).exec events =
      (hooks.verdict h events value name d,
        events ++ [.judged h.name value name
          (match d.type with
            | .kind k => .string k.name
            | v => v)]) :=
  rfl

/-- One step: a parameter that is checked adds its question, if it has one, and gets its report. -/
theorem checkValue_reports {hooks : Hooks} {params : Table Value} {name : Value} {d : Definition}
    {events events' : List Event} {found : Option Problem}
    (h : (checkValue hooks name d (valueOf params name)).exec events = (.ok found, events')) :
    events' = events ++ (questionOf? params (name, d)).toList ∧
      Reports hooks events name d (valueOf params name) (found.map Problem.toValue) := by
  cases hv : d.validate with
  | null =>
      rw [checkValue_exec_of_null hooks name _ events hv] at h
      obtain ⟨hi, rfl⟩ := Prod.mk.inj h
      obtain ⟨hf, hfits⟩ := inspect_eq_ok hi
      have hfinds := finds_expected d (valueOf params name)
      rw [← hf] at hfinds
      refine ⟨by simp [questionOf?, hv], ?_⟩
      cases found with
      | none => exact .clear hv hfinds
      | some p => exact .found hv hfinds (hfits p rfl)
  | hook k =>
      have hn : ¬ d.validate.isNull = true := by simp [hv, Value.isNull]
      rw [checkValue, if_neg hn] at h
      obtain ⟨verdict, events₁, hj, h⟩ := Run.exec_bind_eq_ok_iff.1 h
      rw [hv, judge_exec] at hj
      obtain ⟨hverdict, rfl⟩ := Prod.mk.inj hj
      -- the question is asked before the verdict is looked at
      cases ht : verdict.truthy with
      | true =>
          rw [if_pos ht, Run.exec_lift] at h
          obtain ⟨hr, rfl⟩ := Prod.mk.inj h
          obtain ⟨p, hp, rfl⟩ := map_eq_ok_iff.1 hr
          obtain ⟨hf, hk⟩ := report_eq_ok hp
          refine ⟨by simp [questionOf?, hv], ?_⟩
          have hvalue : p.toValue = reportWith p.type [(.string "error", verdict)] := by
            rw [Problem.toValue, hf]
            rfl
          rw [Option.map_some, hvalue]
          exact .refused hv hverdict ht hk
      | false =>
          rw [ht, if_neg Bool.false_ne_true] at h
          obtain ⟨hf, rfl⟩ := Prod.mk.inj h
          obtain rfl := Except.ok.inj hf
          exact ⟨by simp [questionOf?, hv], .passed hv hverdict ht⟩
  | _ =>
      -- anything else in the place of a hook stops the check
      have hnull := null_of_checkValue_eq_ok (by simp [hv, Value.isCallable]) h
      simp [hv] at hnull

/-! ## The report of all parameters -/

section Whole

variable {hooks : Hooks} {params : Table Value} {declared : Table Definition}
  {events events' : List Event} {problems : Problems}

theorem questions_cons (params : Table Value) (entry : Value × Definition)
    (declared : Table Definition) :
    questions params (entry :: declared) =
      (questionOf? params entry).toList ++ questions params declared := by
  unfold questions
  rw [List.filterMap_cons]
  cases questionOf? params entry with
  | none => rfl
  | some question => rfl

/-- A check that ends goes on from the first parameter to the others. -/
theorem check_cons_eq_ok {name : Value} {d : Definition}
    (h : (check hooks params ((name, d) :: declared)).exec events = (.ok problems, events')) :
    ∃ found others between,
      (checkValue hooks name d (valueOf params name)).exec events = (.ok found, between) ∧
      (check hooks params declared).exec between = (.ok others, events') ∧
      problems = found.toList.map (name, ·) ++ others := by
  rw [check_cons] at h
  obtain ⟨found, between, hfound, h⟩ := Run.exec_bind_eq_ok_iff.1 h
  obtain ⟨others, last, hothers, h⟩ := Run.exec_bind_eq_ok_iff.1 h
  obtain ⟨hp, rfl⟩ := Prod.mk.inj h
  exact ⟨found, others, between, hfound, hothers, (Except.ok.inj hp).symm⟩

/-- The hooks are asked once each, in order of declaration. -/
theorem check_events (h : (check hooks params declared).exec events = (.ok problems, events')) :
    events' = events ++ questions params declared := by
  induction declared generalizing events problems with
  | nil =>
      obtain ⟨-, rfl⟩ := Prod.mk.inj h
      exact (List.append_nil events).symm
  | cons head declared ih =>
      obtain ⟨name, d⟩ := head
      obtain ⟨found, others, between, hfound, hothers, -⟩ := check_cons_eq_ok h
      obtain ⟨rfl, -⟩ := checkValue_reports hfound
      rw [ih hothers, questions_cons, List.append_assoc]

/-- Only declared names have problems. -/
theorem mem_keys_of_check (h : (check hooks params declared).exec events = (.ok problems, events'))
    {name : Value} (hn : name ∈ Table.keys problems) : name ∈ declared.keys := by
  induction declared generalizing events problems with
  | nil =>
      obtain ⟨hp, -⟩ := Prod.mk.inj h
      obtain rfl := Except.ok.inj hp
      simp [Table.keys] at hn
  | cons head declared ih =>
      obtain ⟨n, d⟩ := head
      obtain ⟨found, others, between, -, hothers, rfl⟩ := check_cons_eq_ok h
      unfold Table.keys at hn ⊢
      rw [List.map_append, List.mem_append] at hn
      rcases hn with hn | hn
      · obtain ⟨entry, hentry, rfl⟩ := List.mem_map.1 hn
        obtain ⟨p, -, rfl⟩ := List.mem_map.1 hentry
        exact List.mem_cons_self
      · exact List.mem_cons_of_mem n (ih hothers hn)

theorem get?_found_append (name : Value) (found : Option Problem) (others : Problems) (n : Value) :
    Table.get? (found.toList.map (name, ·) ++ others) n =
      if name.key = n.key then found.or (Table.get? others n) else Table.get? others n := by
  cases found with
  | none => simp
  | some p => simp [Table.get?]

/-- A name that is declared later has no problem before its turn. -/
theorem get?_others_eq_none {name : Value} {d : Definition}
    (hd : Table.Distinct ((name, d) :: declared))
    (h : (check hooks params declared).exec events = (.ok problems, events')) :
    Table.get? problems name = none := by
  obtain ⟨hne, -⟩ := Table.distinct_cons_iff.1 hd
  cases hg : Table.get? problems name with
  | none => rfl
  | some p =>
      exfalso
      obtain ⟨n, hkey, hmem⟩ := Table.mem_of_get? hg
      obtain ⟨entry, hentry, rfl⟩ :=
        List.mem_map.1 (mem_keys_of_check h (List.mem_map_of_mem hmem))
      exact hne entry hentry hkey

/-- The names with a problem are the failing ones, in order of declaration. -/
theorem check_keys (hd : Table.Distinct declared)
    (h : (check hooks params declared).exec events = (.ok problems, events')) :
    Table.keys problems =
      declared.keys.filter fun n => (Table.get? problems n).isSome := by
  induction declared generalizing events problems with
  | nil =>
      obtain ⟨hp, -⟩ := Prod.mk.inj h
      obtain rfl := Except.ok.inj hp
      rfl
  | cons head declared ih =>
      obtain ⟨name, d⟩ := head
      obtain ⟨hne, hd'⟩ := Table.distinct_cons_iff.1 hd
      obtain ⟨found, others, between, -, hothers, rfl⟩ := check_cons_eq_ok h
      -- the names behind the first one are looked up among the other problems
      have hrest : (Table.keys declared).filter (fun n =>
          (Table.get? (found.toList.map (name, ·) ++ others) n).isSome) = Table.keys others := by
        rw [ih hd' hothers]
        apply List.filter_congr
        intro n hn
        obtain ⟨entry, hentry, rfl⟩ := List.mem_map.1 hn
        rw [get?_found_append, if_neg fun he => hne entry hentry he.symm]
      show List.map Prod.fst (found.toList.map (name, ·) ++ others) =
        (name :: Table.keys declared).filter _
      rw [List.filter_cons, hrest, get?_found_append, if_pos rfl,
        get?_others_eq_none hd hothers, Option.or_none]
      cases found with
      | none => rfl
      | some p => rfl

/-- Every declared parameter has the report that it gets in its turn. -/
theorem check_reports_each (hd : Table.Distinct declared)
    (h : (check hooks params declared).exec events = (.ok problems, events'))
    {before after : Table Definition} {name : Value} {d : Definition}
    (hs : declared = before ++ (name, d) :: after) :
    Reports hooks (events ++ questions params before) name d (valueOf params name)
      ((Table.get? problems name).map Problem.toValue) := by
  induction before generalizing declared events problems with
  | nil =>
      subst hs
      obtain ⟨found, others, between, hfound, hothers, rfl⟩ := check_cons_eq_ok h
      rw [get?_found_append, if_pos rfl, get?_others_eq_none hd hothers, Option.or_none]
      have hreports := (checkValue_reports hfound).2
      rwa [show questions params [] = [] from rfl, List.append_nil]
  | cons head before ih =>
      subst hs
      obtain ⟨n, c⟩ := head
      obtain ⟨hne, hd'⟩ := Table.distinct_cons_iff.1 hd
      obtain ⟨found, others, between, hfound, hothers, rfl⟩ := check_cons_eq_ok h
      obtain ⟨rfl, -⟩ := checkValue_reports hfound
      -- an earlier parameter has another name, so its problem is not the one looked up
      have hother : ¬ n.key = name.key := fun he =>
        hne (name, d) (List.mem_append_right before List.mem_cons_self) he.symm
      rw [get?_found_append, if_neg hother, questions_cons, ← List.append_assoc]
      exact ih hd' hothers rfl

/-- The report of a parameter depends on its definition, its value and the verdict of its hook. -/
theorem Reports.unique {hooks₁ hooks₂ : Hooks} {past₁ past₂ : List Event} {name : Value}
    {d : Definition} {value : Value} {r₁ r₂ : Option Value}
    (h₁ : Reports hooks₁ past₁ name d value r₁) (h₂ : Reports hooks₂ past₂ name d value r₂)
    (hv : ∀ h, d.validate = .hook h →
      hooks₁.verdict h past₁ value name d = hooks₂.verdict h past₂ value name d) : r₁ = r₂ := by
  cases h₁ with
  | refused hd ha ht hk =>
      cases h₂ with
      | refused hd' ha' _ hk' =>
          obtain rfl := Value.hook.inj (hd.symm.trans hd')
          obtain rfl := Except.ok.inj (ha.symm.trans ((hv _ hd).trans ha'))
          obtain rfl := Value.kind.inj (hk.symm.trans hk')
          rfl
      | passed hd' ha' ht' =>
          obtain rfl := Value.hook.inj (hd.symm.trans hd')
          obtain rfl := Except.ok.inj (ha.symm.trans ((hv _ hd).trans ha'))
          simp [ht] at ht'
      | found hd' _ _ => simp [hd] at hd'
      | clear hd' _ => simp [hd] at hd'
  | passed hd ha ht =>
      cases h₂ with
      | refused hd' ha' ht' _ =>
          obtain rfl := Value.hook.inj (hd.symm.trans hd')
          obtain rfl := Except.ok.inj (ha.symm.trans ((hv _ hd).trans ha'))
          simp [ht] at ht'
      | passed _ _ _ => rfl
      | found hd' _ _ => simp [hd] at hd'
      | clear hd' _ => rfl
  | found hd hf hk =>
      cases h₂ with
      | refused hd' _ _ _ => simp [hd] at hd'
      | passed hd' _ _ => simp [hd] at hd'
      | found _ hf' hk' =>
          obtain rfl := Option.some.inj (hf.unique hf')
          obtain rfl := Value.kind.inj (hk.symm.trans hk')
          rfl
      | clear _ hf' => simpa using hf.unique hf'
  | clear hd hf =>
      cases h₂ with
      | refused hd' _ _ _ => simp [hd] at hd'
      | passed _ _ _ => rfl
      | found _ hf' _ => simpa using hf.unique hf'
      | clear _ _ => rfl

/-- A check that ends has asked every validate hook once, in order of declaration, and reports the
failing names in that order, each by the rules of `Reports`. In another check the same definition
with the same value, and the same verdict if it has a hook, gets the same report. -/
theorem check_reports (hd : Table.Distinct declared)
    (h : (check hooks params declared).exec events = (.ok problems, events')) :
    events' = events ++ questions params declared ∧
      Table.keys problems =
        declared.keys.filter (fun n => (Table.get? problems n).isSome) ∧
      (∀ before name d after, declared = before ++ (name, d) :: after →
        Reports hooks (events ++ questions params before) name d (valueOf params name)
          ((Table.get? problems name).map Problem.toValue)) ∧
      ∀ (hooks₂ : Hooks) (params₂ : Table Value) (declared₂ : Table Definition)
        (events₂ events₂' : List Event) (problems₂ : Problems), Table.Distinct declared₂ →
        (check hooks₂ params₂ declared₂).exec events₂ = (.ok problems₂, events₂') →
        ∀ name d before after before₂ after₂, declared = before ++ (name, d) :: after →
          declared₂ = before₂ ++ (name, d) :: after₂ →
          valueOf params₂ name = valueOf params name →
          (∀ k, d.validate = .hook k →
            hooks.verdict k (events ++ questions params before) (valueOf params name) name d =
              hooks₂.verdict k (events₂ ++ questions params₂ before₂) (valueOf params name)
                name d) →
          (Table.get? problems name).map Problem.toValue =
            (Table.get? problems₂ name).map Problem.toValue := by
  refine ⟨check_events h, check_keys hd h, ?_, ?_⟩
  · intro before name d after hs
    exact check_reports_each hd h hs
  · intro hooks₂ params₂ declared₂ events₂ events₂' problems₂ hd₂ h₂ name d before after before₂
      after₂ hs hs₂ hvalue hverdict
    have hr₂ := check_reports_each hd₂ h₂ hs₂
    rw [hvalue] at hr₂
    exact (check_reports_each hd h hs).unique hr₂ hverdict

end Whole

/-! ## A check of three parameters -/

/-- Integers are compared as bounds like integers. -/
theorem passes_int (c : Value.Comparison) (a b : Int) :
    passes c (.int a) (.int b) =
      .ok (match c with
        | .less => decide (a < b)
        | .greater => decide (b < a)) := by
  have hunits : (0 : Int) < Binary64.oneUnits := Int.natCast_pos.2 Binary64.oneUnits_pos
  rw [passes_of_position? c rfl rfl]
  cases c with
  | less =>
      refine congrArg Except.ok (decide_eq_decide.2 ?_)
      exact Int.mul_lt_mul_right hunits
  | greater =>
      refine congrArg Except.ok (decide_eq_decide.2 ?_)
      exact Int.mul_lt_mul_right hunits

/-- A tag of two or three characters. -/
def tagDefinition : Definition :=
  .ofEntries [(.string "min", .int 2), (.string "max", .int 3)] .string

/-- A code that a hook judges, tags of two or three characters, and an age that has to be given. -/
def formDeclared : Table Definition :=
  [(.string "code", .ofEntries [(.string "validate", .hook ⟨"judge", 0⟩)] .string),
    (.string "tags", tagDefinition), (.string "age", .ofEntries [] .integer)]

/-- Values without a code and an age, and with three tags of which the last one fits. -/
def formParams : Table Value :=
  [(.string "tags", .list [.string "abcd", .string "a", .string "ab"])]

/-- A hook that finds every value bad. -/
def formHooks : Hooks := Hooks.ofList [.judging [⟨.always, .string "bad"⟩]]

/-- The problems of these values. -/
def formProblems : Problems :=
  [(.string "code", ⟨.string, .custom (.string "bad")⟩),
    (.string "tags", ⟨.string, .belowMin (.int 2)⟩), (.string "age", ⟨.integer, .notSet⟩)]

theorem form_distinct : Table.Distinct formDeclared := by
  simp [formDeclared, Table.Distinct, Value.key]

theorem checkEntry_tag (before : Option Problem) (s : String) (hs : s ≠ "") :
    checkEntry tagDefinition before (.string s) =
      .ok (if (Text.codes s).length < 2 then some ⟨.string, .belowMin (.int 2)⟩
        else if 3 < (Text.codes s).length then some ⟨.string, .aboveMax (.int 3)⟩
        else before) := by
  have ht : (Value.string s).truthy = true := by simpa [Value.truthy] using hs
  have hm : measure tagDefinition.type (.string s) = .ok (some (.int (Text.codes s).length)) := rfl
  have hmin : tagDefinition.min = .int 2 := rfl
  have hmax : tagDefinition.max = .int 3 := rfl
  have hk : tagDefinition.type = .kind .string := rfl
  have habove : decide ((3 : Int) < (Text.codes s).length) = decide (3 < (Text.codes s).length) :=
    decide_eq_decide.2 (by omega)
  have hbelow : decide (((Text.codes s).length : Int) < 2) = decide ((Text.codes s).length < 2) :=
    decide_eq_decide.2 (by omega)
  rw [checkEntry_of_truthy ht, hm, ok_bind]
  simp only [checkQuantity, hmin, hmax, passes_int, report_of_kind hk, ok_bind, map_ok, habove,
    hbelow, decide_eq_true_eq]
  by_cases ha : 3 < (Text.codes s).length
  · have hb : ¬ (Text.codes s).length < 2 := by omega
    simp only [ha, hb, if_true, if_false, ok_bind]
  · by_cases hb : (Text.codes s).length < 2
    · simp only [ha, hb, if_true, if_false, ok_bind]
    · simp only [ha, hb, if_false, ok_bind]

theorem inspect_tags : inspect tagDefinition (.list [.string "abcd", .string "a", .string "ab"]) =
    .ok (some ⟨.string, .belowMin (.int 2)⟩) := by
  have hstart : (tagDefinition.required.truthy &&
      isMissing (.list [.string "abcd", .string "a", .string "ab"])) = false := rfl
  rw [inspect_eq, hstart, if_neg Bool.false_ne_true, ok_bind]
  simp only [checkedEntries, checkEntries]
  rw [checkEntry_tag none "abcd" (by decide), ok_bind, checkEntry_tag _ "a" (by decide), ok_bind,
    checkEntry_tag _ "ab" (by decide), ok_bind]
  rfl

theorem form_checked : (check formHooks formParams formDeclared).exec [] =
    (.ok formProblems, [.judged "judge" .null (.string "code") (.string "string")]) := by
  have hcode : (checkValue formHooks (.string "code")
      (.ofEntries [(.string "validate", .hook ⟨"judge", 0⟩)] .string)
      (valueOf formParams (.string "code"))).exec [] =
      (.ok (some ⟨.string, .custom (.string "bad")⟩),
        [.judged "judge" .null (.string "code") (.string "string")]) := rfl
  have htags (events : List Event) :
      (checkValue formHooks (.string "tags") tagDefinition
        (valueOf formParams (.string "tags"))).exec events =
      (.ok (some ⟨.string, .belowMin (.int 2)⟩), events) := by
    rw [checkValue_exec_of_null _ _ _ _ rfl]
    exact congrArg (·, events) inspect_tags
  have hage (events : List Event) :
      (check formHooks formParams [(.string "age", .ofEntries [] .integer)]).exec events =
        (.ok [(.string "age", ⟨.integer, .notSet⟩)], events) := rfl
  rw [formDeclared, check_cons, Run.exec_bind_of_ok hcode, check_cons, Run.exec_bind,
    Run.exec_bind_of_ok (htags _), Run.exec_bind_of_ok (hage _)]
  rfl

/-- The last tag that does not fit decides, after the verdict on the code and before the age. -/
theorem check_reports_form :
    Table.Distinct formDeclared ∧
      (check formHooks formParams formDeclared).exec [] =
        (.ok formProblems, [.judged "judge" .null (.string "code") (.string "string")]) ∧
      Reports formHooks (questions formParams (formDeclared.take 1)) (.string "tags")
        tagDefinition (valueOf formParams (.string "tags"))
        (some (reportWith .string
          [(.string "error", .string "value below min value"), (.string "min", .int 2)])) := by
  refine ⟨form_distinct, form_checked, ?_⟩
  obtain ⟨-, -, hreports, -⟩ := check_reports form_distinct form_checked
  exact hreports (formDeclared.take 1) (.string "tags") tagDefinition (formDeclared.drop 2) rfl

end ParamGate
