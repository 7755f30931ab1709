import ParamGate.Parameter.Check
import ParamGate.Proofs.Parameter.Declaration

/-!
# What a check finds

The check of a value overwrites what it found before, entry after entry. `expectedFinding?` says
without a loop what is left: the finding about the last entry that lies beyond a bound, or else that
a required value is missing; `inspect_eq_ok` proves the check equal to it whenever the check ends
without a fault.

On a value that was coerced for a parameter in normal form there is one way to a fault
(`inspect_fault_iff`): a number that has a bound is compared with a list inside the value.
-/

namespace ParamGate

/-! ## Quantities and bounds -/

/-- The first value is a number that lies above the second on the line. -/
def Value.Above (v w : Value) : Prop :=
  ∃ p q, v.position? = some (some p) ∧ w.position? = some (some q) ∧ q.lt p = true

/-- The first value is a number that lies below the second on the line. -/
def Value.Below (v w : Value) : Prop := w.Above v

/-- Numbers are compared by their positions. -/
theorem compare_of_position? (c : Value.Comparison) {v w : Value}
    {p q : Option Binary64.Position} (hv : v.position? = some p) (hw : w.position? = some q) :
    v.compare c w = .ok (c.positions p q) := by
  cases v <;> cases w <;> simp_all [Value.position?, Value.compare]

theorem passes_null (c : Value.Comparison) (quantity : Value) :
    passes c quantity .null = .ok false :=
  rfl

theorem passes_of_position? (c : Value.Comparison) {quantity bound : Value}
    {p q : Option Binary64.Position} (hq : quantity.position? = some p)
    (hb : bound.position? = some q) : passes c quantity bound = .ok (c.positions p q) := by
  -- a bound with a position is not null, so the comparison takes place
  have hn : bound.isNull = false := by
    cases bound with
    | null => simp [Value.position?] at hb
    | _ => rfl
  rw [passes, hn]
  exact compare_of_position? c hq hb

theorem not_above_of_passes {quantity bound : Value}
    (h : passes .greater quantity bound = .ok false) : ¬ quantity.Above bound := by
  rintro ⟨p, q, hp, hq, hlt⟩
  rw [passes_of_position? .greater hp hq] at h
  have := Except.ok.inj h
  simp [Value.Comparison.positions, hlt] at this

theorem not_below_of_passes {quantity bound : Value}
    (h : passes .less quantity bound = .ok false) : ¬ quantity.Below bound := by
  rintro ⟨p, q, hp, hq, hlt⟩
  rw [passes_of_position? .less hq hp] at h
  have := Except.ok.inj h
  simp [Value.Comparison.positions, hlt] at this

theorem Value.IsBound.cases_position {bound : Value} (h : bound.IsBound) :
    bound = .null ∨ ∃ q, bound.position? = some q := by
  rcases h with h | ⟨n, rfl⟩ | ⟨x, rfl⟩
  · exact Or.inl h
  · exact Or.inr ⟨_, rfl⟩
  · exact Or.inr ⟨_, rfl⟩

/-- A number can be compared with every bound. -/
theorem passes_eq_ok (c : Value.Comparison) {quantity bound : Value}
    {p : Option Binary64.Position} (hq : quantity.position? = some p) (hb : bound.IsBound) :
    ∃ b, passes c quantity bound = .ok b := by
  rcases hb.cases_position with rfl | ⟨q, hb⟩
  · exact ⟨false, rfl⟩
  · exact ⟨_, passes_of_position? c hq hb⟩

/-- A list can be compared with no bound. -/
theorem passes_list_eq_error (c : Value.Comparison) (items : List Value) {bound : Value}
    (hb : bound.IsBound) (hn : bound ≠ .null) :
    ∃ fault, passes c (.list items) bound = .error fault := by
  rcases hb with h | ⟨n, rfl⟩ | ⟨x, rfl⟩
  · exact absurd h hn
  · exact ⟨_, rfl⟩
  · exact ⟨_, rfl⟩

/-- The length of the text of a value. -/
def Value.textLength (v : Value) : Except Fault Nat :=
  match v.codes? with
  | some codes => .ok codes.length
  | none => v.text.map String.length

theorem measure_string (entry : Value) :
    measure (.kind .string) entry = entry.textLength.map fun n => some (.int n) := by
  unfold measure Value.textLength
  cases entry.codes? with
  | some codes => rfl
  | none =>
      cases entry.text with
      | ok s => rfl
      | error fault => rfl

theorem measure_number (entry : Value) : measure (.kind .number) entry = .ok (some entry) := rfl

/-- Types other than texts and numbers have no quantity. -/
theorem measure_other {k : Kind} (hs : k ≠ .string) (hn : k ≠ .number) (entry : Value) :
    measure (.kind k) entry = .ok none := by
  cases k with
  | string => exact absurd rfl hs
  | number => exact absurd rfl hn
  | _ => rfl

/-! ## The last finding -/

/-- Whether a quantity is found beyond a bound. -/
def Value.beyond (c : Value.Comparison) (quantity bound : Value) : Bool :=
  -- a comparison that fails finds nothing; whether one fails is a separate question
  match passes c quantity bound with
  | .ok b => b
  | .error _ => false

/-- The finding about a true entry that lies beyond a bound; the lower bound counts first. -/
def boundFinding? (d : Definition) (entry : Value) : Option Finding :=
  if entry.truthy then
    match measure d.type entry with
    | .ok (some quantity) =>
        -- the check looks at the lower bound last, and the later finding stays
        if Value.beyond .less quantity d.min then some (.belowMin d.min)
        else if Value.beyond .greater quantity d.max then some (.aboveMax d.max)
        else none
    | _ => none
  else none

/-- The finding about the last entry that lies beyond a bound. -/
def lastFinding? (d : Definition) (entries : List Value) : Option Finding :=
  entries.reverse.findSome? (boundFinding? d)

/-- What a check of a value has to find. -/
def expectedFinding? (d : Definition) (value : Value) : Option Finding :=
  -- a finding about an entry replaces the one about a missing value
  (lastFinding? d (checkedEntries value)).or
    (if d.required.truthy && isMissing value then some .notSet else none)

theorem lastFinding?_cons (d : Definition) (entry : Value) (entries : List Value) :
    lastFinding? d (entry :: entries) = (lastFinding? d entries).or (boundFinding? d entry) := by
  unfold lastFinding?
  rw [List.reverse_cons, List.findSome?_append, List.findSome?_singleton]

theorem report_eq_ok {d : Definition} {finding : Finding} {p : Problem}
    (h : report d finding = .ok p) : p.finding = finding ∧ d.type = .kind p.type := by
  unfold report at h
  obtain ⟨k, hk, rfl⟩ := map_eq_ok_iff.1 h
  unfold declaredKind at hk
  split at hk
  · rename_i k' hd
    obtain rfl := Except.ok.inj hk
    exact ⟨rfl, hd⟩
  · simp at hk

theorem report_of_kind {d : Definition} {k : Kind} (hk : d.type = .kind k) (finding : Finding) :
    report d finding = .ok ⟨k, finding⟩ := by
  rw [report, hk]
  rfl

/-- A problem fits a definition when it names its type. -/
def Fits (d : Definition) (found : Option Problem) : Prop :=
  ∀ p, found = some p → d.type = .kind p.type

theorem reported_eq_ok {d : Definition} {finding : Finding} {found : Option Problem}
    (h : (report d finding).map some = .ok found) :
    found.map Problem.finding = some finding ∧ Fits d found := by
  obtain ⟨p, hp, rfl⟩ := map_eq_ok_iff.1 h
  obtain ⟨hf, hk⟩ := report_eq_ok hp
  refine ⟨by rw [Option.map_some, hf], ?_⟩
  intro q hq
  rw [← Option.some.inj hq, hk]

/-- The finding about a measured entry, or the finding before it: the upper bound is looked at
first and the lower bound last. -/
def checkQuantity (d : Definition) (before : Option Problem) (quantity : Value) :
    Except Fault (Option Problem) :=
  passes .greater quantity d.max >>= fun above =>
    (if above then (report d (.aboveMax d.max)).map some else .ok before) >>= fun found =>
      passes .less quantity d.min >>= fun below =>
        if below then (report d (.belowMin d.min)).map some else .ok found

theorem checkEntry_of_truthy {d : Definition} {before : Option Problem} {entry : Value}
    (ht : entry.truthy = true) :
    checkEntry d before entry = measure d.type entry >>= fun measured =>
      match measured with
      | none => .ok before
      | some quantity => checkQuantity d before quantity := by
  unfold checkEntry
  rw [if_pos ht]
  apply bind_congr
  intro measured
  cases measured with
  | none => rfl
  | some quantity =>
      apply bind_congr
      intro above
      cases above with
      | true => rfl
      | false => rfl

theorem checkEntry_of_falsy {d : Definition} {before : Option Problem} {entry : Value}
    (ht : entry.truthy = false) : checkEntry d before entry = .ok before := by
  unfold checkEntry
  rw [ht]
  rfl

theorem inspect_eq (d : Definition) (value : Value) :
    inspect d value =
      (if d.required.truthy && isMissing value then (report d .notSet).map some else .ok none)
        >>= fun missing => checkEntries d missing (checkedEntries value) := by
  unfold inspect
  simp only
  split
  · rfl
  · rfl

/-- One entry replaces the finding before it exactly when it lies beyond a bound. -/
theorem checkEntry_eq_ok {d : Definition} {before found : Option Problem} {entry : Value}
    (h : checkEntry d before entry = .ok found) (hb : Fits d before) :
    found.map Problem.finding = (boundFinding? d entry).or (before.map Problem.finding) ∧
      Fits d found := by
  unfold boundFinding?
  cases ht : entry.truthy with
  | true =>
    rw [if_pos rfl]
    rw [checkEntry_of_truthy ht] at h
    obtain ⟨measured, hmeasured, h⟩ := bind_eq_ok_iff.1 h
    rw [hmeasured]
    cases measured with
    | none =>
        obtain rfl := Except.ok.inj h
        exact ⟨by simp, hb⟩
    | some quantity =>
        obtain ⟨above, habove, h⟩ := bind_eq_ok_iff.1 h
        obtain ⟨first, hfirst, h⟩ := bind_eq_ok_iff.1 h
        obtain ⟨below, hbelow, h⟩ := bind_eq_ok_iff.1 h
        simp only [Value.beyond, habove, hbelow]
        -- the lower bound replaces whatever was found before it
        cases below with
        | true =>
            obtain ⟨hf, hk⟩ := reported_eq_ok h
            exact ⟨by simp [hf], hk⟩
        | false =>
            obtain rfl : first = found := Except.ok.inj h
            -- then the upper bound decides, or else the earlier finding is kept
            cases above with
            | true =>
                obtain ⟨hf, hk⟩ := reported_eq_ok hfirst
                exact ⟨by simp [hf], hk⟩
            | false =>
                obtain rfl : before = first := Except.ok.inj hfirst
                exact ⟨by simp, hb⟩
  | false =>
    rw [checkEntry_of_falsy ht] at h
    obtain rfl := Except.ok.inj h
    exact ⟨by simp, hb⟩

theorem checkEntries_eq_ok {d : Definition} {before found : Option Problem}
    {entries : List Value} (h : checkEntries d before entries = .ok found) (hb : Fits d before) :
    found.map Problem.finding = (lastFinding? d entries).or (before.map Problem.finding) ∧
      Fits d found := by
  -- each entry starts from what was found so far, so the finding before it is arbitrary
  induction entries generalizing before with
  | nil =>
      obtain rfl := Except.ok.inj h
      exact ⟨by simp [lastFinding?], hb⟩
  | cons entry entries ih =>
      rw [checkEntries] at h
      obtain ⟨next, hnext, h⟩ := bind_eq_ok_iff.1 h
      obtain ⟨hf, hk⟩ := checkEntry_eq_ok hnext hb
      obtain ⟨hf', hk'⟩ := ih h hk
      exact ⟨by rw [hf', hf, lastFinding?_cons, Option.or_assoc], hk'⟩

/-- A check that ends without a fault finds what it has to find. -/
theorem inspect_eq_ok {d : Definition} {value : Value} {found : Option Problem}
    (h : inspect d value = .ok found) :
    found.map Problem.finding = expectedFinding? d value ∧ Fits d found := by
  rw [inspect_eq] at h
  obtain ⟨missing, hmissing, h⟩ := bind_eq_ok_iff.1 h
  unfold expectedFinding?
  -- the loop over the entries starts from the finding about a missing value, if there is one
  split at hmissing
  · rename_i hreq
    obtain ⟨hf, hk⟩ := reported_eq_ok hmissing
    obtain ⟨hf', hk'⟩ := checkEntries_eq_ok h hk
    exact ⟨by rw [hf', hf, if_pos hreq], hk'⟩
  · rename_i hreq
    obtain rfl := Except.ok.inj hmissing
    obtain ⟨hf', hk'⟩ := checkEntries_eq_ok h (fun p hp => by simp at hp)
    exact ⟨by rw [hf', Option.map_none, if_neg hreq], hk'⟩

/-! ## Entries within the bounds -/

/-- A true entry that was measured lies within the bounds, if its type has a quantity. -/
def WithinBounds (d : Definition) (entry : Value) : Prop :=
  ∃ measured, measure d.type entry = .ok measured ∧
    ∀ quantity, measured = some quantity →
      passes .greater quantity d.max = .ok false ∧ passes .less quantity d.min = .ok false

theorem withinBounds_of_checkEntry {d : Definition} {before found : Option Problem} {entry : Value}
    (h : checkEntry d before entry = .ok found) (ht : entry.truthy = true)
    (hf : boundFinding? d entry = none) : WithinBounds d entry := by
  rw [checkEntry_of_truthy ht] at h
  obtain ⟨measured, hmeasured, h⟩ := bind_eq_ok_iff.1 h
  refine ⟨measured, hmeasured, ?_⟩
  intro quantity hq
  subst hq
  obtain ⟨above, habove, h⟩ := bind_eq_ok_iff.1 h
  obtain ⟨first, -, h⟩ := bind_eq_ok_iff.1 h
  obtain ⟨below, hbelow, -⟩ := bind_eq_ok_iff.1 h
  simp only [boundFinding?, ht, hmeasured, Value.beyond, habove, hbelow] at hf
  -- an entry beyond a bound would have been found
  cases below with
  | true => simp at hf
  | false =>
      cases above with
      | true => simp at hf
      | false => exact ⟨habove, hbelow⟩

theorem withinBounds_of_checkEntries {d : Definition} {before found : Option Problem}
    {entries : List Value} (h : checkEntries d before entries = .ok found)
    (hf : lastFinding? d entries = none) {entry : Value} (hm : entry ∈ entries)
    (ht : entry.truthy = true) : WithinBounds d entry := by
  induction entries generalizing before with
  | nil => simp at hm
  | cons head entries ih =>
      rw [checkEntries] at h
      obtain ⟨next, hnext, h⟩ := bind_eq_ok_iff.1 h
      rw [lastFinding?_cons, Option.or_eq_none_iff] at hf
      rcases List.mem_cons.1 hm with rfl | hm
      · exact withinBounds_of_checkEntry hnext ht hf.2
      · exact ih h hf.1 hm

/-- A value without a finding is present if required, and its true entries are within the bounds. -/
theorem inspect_eq_none {d : Definition} {value : Value} (h : inspect d value = .ok none) :
    (d.required.truthy = true → isMissing value = false) ∧
      ∀ entry ∈ checkedEntries value, entry.truthy = true → WithinBounds d entry := by
  have he : expectedFinding? d value = none := (inspect_eq_ok h).1.symm
  -- no entry lies beyond a bound and nothing is missing, for either would have been found
  unfold expectedFinding? at he
  rw [Option.or_eq_none_iff] at he
  constructor
  · intro hr
    cases hv : isMissing value with
    | false => rfl
    | true => simp [hr, hv] at he
  · intro entry hm ht
    rw [inspect_eq] at h
    obtain ⟨missing, -, h⟩ := bind_eq_ok_iff.1 h
    exact withinBounds_of_checkEntries h he.1 hm ht

/-- Nothing is found about a value that can be checked if nothing has to be found. -/
theorem inspect_eq_ok_none {d : Definition} {value : Value}
    (hf : ¬ ∃ fault, inspect d value = .error fault) (he : expectedFinding? d value = none) :
    inspect d value = .ok none := by
  cases hi : inspect d value with
  | error fault => exact absurd ⟨fault, hi⟩ hf
  | ok found =>
      have hfound := (inspect_eq_ok hi).1
      rw [he, Option.map_eq_none_iff] at hfound
      rw [hfound]

/-! ## Faults -/

/-- Values as coercion to a type leaves them; texts stay values of JSON texts. -/
def Suits (k : Kind) (v : Value) : Prop := v.OfKind k ∧ (k = .string → v.IsJson)

theorem suits_null (k : Kind) : Suits k .null := by
  refine ⟨.single ?_, fun _ => .null⟩
  cases k with
  | any => exact ⟨by simp, rfl⟩
  | string => exact ⟨by simp, rfl⟩
  | boolean => exact Or.inl rfl
  | number => exact Or.inl rfl
  | integer => exact Or.inl rfl

theorem suits_coerced {k : Kind} {array : Bool} {raw v : Value} (hr : raw.IsJson)
    (h : coerce k array raw = .ok v) : Suits k v := by
  refine ⟨coerce_ofKind h, ?_⟩
  intro hk
  subst hk
  exact coerce_text_json hr h

theorem Value.OfKind.of_list {k : Kind} {items : List Value} (h : (Value.list items).OfKind k)
    {v : Value} (hv : v ∈ items) : v.OfKind k := by
  cases h with
  | list hs => exact hs v hv
  | single ha => cases k <;> simp [Kind.Admits, Value.items?] at ha

theorem suits_entries {k : Kind} {value entry : Value} (h : Suits k value)
    (he : entry ∈ checkedEntries value) : Suits k entry := by
  unfold checkedEntries at he
  split at he
  · refine ⟨h.1.of_list he, ?_⟩
    intro hk
    cases h.2 hk with
    | list hs => exact hs entry he
  · rw [List.mem_singleton.1 he]
    exact h

/-- A number that has a bound meets a list with items. -/
def ComparesList (d : Definition) (entry : Value) : Prop :=
  d.type = .kind .number ∧ ¬ (d.min = .null ∧ d.max = .null) ∧
    ∃ items, entry = .list items ∧ items ≠ []

theorem checkQuantity_eq_ok {d : Definition} (hd : d.Parsed) (before : Option Problem)
    (quantity : Value) {p : Option Binary64.Position} (hq : quantity.position? = some p) :
    ∃ found, checkQuantity d before quantity = .ok found := by
  obtain ⟨k, hk⟩ := hd.kind
  obtain ⟨above, habove⟩ := passes_eq_ok .greater hq hd.max
  obtain ⟨below, hbelow⟩ := passes_eq_ok .less hq hd.min
  unfold checkQuantity
  rw [habove, ok_bind, report_of_kind hk, report_of_kind hk]
  cases above <;> cases below <;> simp [hbelow]

/-- A list as a quantity is a fault exactly when there is a bound to compare it with. -/
theorem checkQuantity_list_fault_iff {d : Definition} (hd : d.Parsed) (before : Option Problem)
    (items : List Value) :
    (∃ fault, checkQuantity d before (.list items) = .error fault) ↔
      ¬ (d.min = .null ∧ d.max = .null) := by
  unfold checkQuantity
  -- the upper bound is compared first, so with both bounds it is the one that fails
  by_cases hmax : d.max = .null
  · by_cases hmin : d.min = .null
    · rw [hmax, hmin, passes_null, passes_null]
      simp
    · obtain ⟨fault, hf⟩ := passes_list_eq_error .less items hd.min hmin
      rw [hmax, passes_null, hf]
      simp [hmin]
  · obtain ⟨fault, hf⟩ := passes_list_eq_error .greater items hd.max hmax
    rw [hf]
    simp [hmax]

theorem textLength_eq_ok {v : Value} (h : v.IsJson) : ∃ n, v.textLength = .ok n := by
  unfold Value.textLength
  cases v.codes? with
  | some codes => exact ⟨_, rfl⟩
  | none =>
      obtain ⟨s, hs⟩ := h.text_eq_ok
      exact ⟨s.length, by rw [hs, map_ok]⟩

section Coerced

variable {d : Definition} {k : Kind} {entry : Value} (before : Option Problem)

theorem checkEntry_string_eq_ok (hd : d.Parsed) (hk : d.type = .kind .string)
    (ht : entry.truthy = true) (hs : entry.IsJson) :
    ∃ found, checkEntry d before entry = .ok found := by
  obtain ⟨n, hn⟩ := textLength_eq_ok hs
  rw [checkEntry_of_truthy ht, hk, measure_string, hn, map_ok, ok_bind]
  exact checkQuantity_eq_ok hd before (.int n) rfl

theorem checkEntry_number_fault_iff (hd : d.Parsed) (hk : d.type = .kind .number)
    (ht : entry.truthy = true) (hs : entry.OfKind .number) :
    (∃ fault, checkEntry d before entry = .error fault) ↔ ComparesList d entry := by
  rw [checkEntry_of_truthy ht, hk, measure_number, ok_bind]
  cases hs with
  | single ha =>
      -- a number has a position, so it can be compared with every bound
      rcases ha with rfl | ⟨x, rfl, -⟩
      · simp [Value.truthy] at ht
      · obtain ⟨found, hf⟩ := checkQuantity_eq_ok hd before (.float x) rfl
        simp [hf, ComparesList]
  | @list items hs =>
      -- an empty list is false and is not measured
      have hne : items ≠ [] := by
        rintro rfl
        simp [Value.truthy] at ht
      simp [checkQuantity_list_fault_iff hd, ComparesList, hk, hne]

/-- An entry of a coerced value is a fault exactly when a bound is compared with a list. -/
theorem checkEntry_fault_iff (hd : d.Parsed) (hk : d.type = .kind k) (hs : Suits k entry) :
    (∃ fault, checkEntry d before entry = .error fault) ↔ ComparesList d entry := by
  cases ht : entry.truthy with
  | false =>
      rw [checkEntry_of_falsy ht]
      constructor
      · rintro ⟨fault, hf⟩
        simp at hf
      · rintro ⟨_, _, items, he, hne⟩
        rw [he] at ht
        simp [Value.truthy, hne] at ht
  | true =>
      -- texts are measured by their length, numbers by themselves, the other types not at all
      by_cases hstring : k = .string
      · subst hstring
        obtain ⟨found, hf⟩ := checkEntry_string_eq_ok before hd hk ht (hs.2 rfl)
        simp [hf, ComparesList, hk]
      · by_cases hnumber : k = .number
        · subst hnumber
          exact checkEntry_number_fault_iff before hd hk ht hs.1
        · rw [checkEntry_of_truthy ht, hk, measure_other hstring hnumber, ok_bind]
          simp [ComparesList, hk, hnumber]

theorem checkEntries_fault_iff (hd : d.Parsed) (hk : d.type = .kind k) {entries : List Value}
    (hs : ∀ entry ∈ entries, Suits k entry) :
    (∃ fault, checkEntries d before entries = .error fault) ↔
      ∃ entry ∈ entries, ComparesList d entry := by
  induction entries generalizing before with
  | nil => simp [checkEntries]
  | cons entry entries ih =>
      have hhead := checkEntry_fault_iff before hd hk (hs entry List.mem_cons_self)
      have htail := fun next => ih next fun e he => hs e (List.mem_cons_of_mem entry he)
      rw [checkEntries]
      -- a fault at the head ends the loop, otherwise the rest decides
      cases hc : checkEntry d before entry with
      | ok next =>
          have : ¬ ComparesList d entry := fun h => by simpa [hc] using hhead.2 h
          simp [htail next, this]
      | error fault =>
          have : ComparesList d entry := hhead.1 ⟨fault, hc⟩
          simp [this]

/-- Checking a coerced value for a parameter in normal form is a fault exactly when a bound is
compared with a list inside the value. -/
theorem inspect_fault_iff (hd : d.Parsed) (hk : d.type = .kind k) {value : Value}
    (hs : Suits k value) :
    (∃ fault, inspect d value = .error fault) ↔
      ∃ entry ∈ checkedEntries value, ComparesList d entry := by
  have he := fun before => checkEntries_fault_iff before hd hk
    fun entry (hm : entry ∈ checkedEntries value) => suits_entries hs hm
  rw [inspect_eq, report_of_kind hk]
  split
  · rw [map_ok, ok_bind]
    exact he _
  · rw [ok_bind]
    exact he _

end Coerced

end ParamGate
