import ParamGate.Proofs.Gate.Extraction
import ParamGate.Proofs.Gate.Registration
import ParamGate.Proofs.Gate.Ruling

/-!
# Answers of endpoints without hooks

A request of an endpoint without hooks whose sources hold values of JSON texts ends in one of three
ways: it is continued, it is rejected, or a fault escapes. `Endpoint.Fails` says when the fault
escapes. Either a number that has a bound was given as a list inside a list, which cannot be
compared; or in development a rejection has to show a bound or a name that JSON cannot write.
`Gate.hookless_answers` proves this exact, and that otherwise the request is answered once.
-/

namespace ParamGate

open Text

/-- Requests whose sources are maps of values that JSON texts denote. -/
structure Inbound.OfJson (r : Inbound) : Prop where
  maps : ∀ name v, (name, v) ∈ r.sources → v.truthy = true → ∃ entries, v = .map entries
  values : ∀ name entries, (name, .map entries) ∈ r.sources → ∀ e ∈ entries, Value.IsJson e.2

theorem Inbound.OfJson.of_gives {r : Inbound} (hr : r.OfJson) {name raw : Value}
    (h : r.Gives name raw) : raw.IsJson := by
  obtain ⟨source, entries, n, hs, hn, -⟩ := h
  exact hr.values source entries hs (n, raw) hn

namespace Endpoint

/-- Endpoints without hooks that a declaration of parameters alone gives. -/
structure Plain (e : Endpoint) : Prop extends e.Hookless where
  names : ∀ n ∈ e.parameters.keys, ∃ s, n.codes? = some s
  distinct : Table.Distinct e.parameters
  order : ∀ name ∈ e.order, name.unhashable? = none
  slot : ∃ name, e.slot.codes? = some name

theorem parseOrder_hookless {order : List String} {sources : List Value}
    (h : parseOrder (.tuple (order.map .string)) = .ok sources) {name : Value}
    (hn : name ∈ sources) : name.unhashable? = none := by
  obtain rfl : order.map Value.string = sources := Except.ok.inj h
  obtain ⟨s, -, rfl⟩ := List.mem_map.1 hn
  rfl

/-- Parameters alone, under defaults without hooks, declare a plain endpoint. -/
theorem plain_of_ofDeclaration {path method version : Value} {specs : Table Value}
    {order : List String} {slot : String} {development : Bool} {e : Endpoint}
    (hspecs : ∀ s ∈ specs, Definition.HooklessSpec s.2) (hdistinct : Table.Distinct specs)
    (h : ofDeclaration path method (parametersOnly specs) (.hookless order slot development)
      version = .ok e) : e.Plain := by
  have hless := hookless_of_ofDeclaration (hooklessDeclaration_parametersOnly hspecs) h
  obtain ⟨entries, specs', he, hb⟩ := built_of_ofDeclaration h
  obtain rfl := Value.map.inj he
  obtain ⟨texts, htexts⟩ := hb.names
  refine ⟨hless, fun n hn => Value.codes?_of_texts htexts hn, hb.distinct_parameters ?_,
    fun name hn => parseOrder_hookless hb.order_eq hn, ?_⟩
  · intro entries' specs'' he' hs
    obtain rfl := Value.map.inj he'
    obtain rfl : specs = specs'' := Value.map.inj hs
    exact hdistinct
  · rw [hb.slot_eq]
    show ∃ name, ((Value.string slot).orElse (.string standardSlot)).codes? = some name
    -- an empty name gives way to the standard one, and both are texts
    unfold Value.orElse
    split
    · exact ⟨codes slot, rfl⟩
    · exact ⟨codes standardSlot, rfl⟩

end Endpoint

/-- A finding about a parameter that JSON cannot show, for the name of the parameter or the bound
that is passed. -/
def Unshowable (name : Value) (finding : Finding) : Prop :=
  name.Unnaming ∨ ∃ bound, finding.bound? = some bound ∧ bound.Unwritable

/-- What makes a fault escape from a request with these extracted parameters: a comparison of a list
with a bound, or in development a finding to be shown that JSON cannot show. -/
def Endpoint.Fails (e : Endpoint) (params : Table Value) : Prop :=
  (∃ n d, (n, d) ∈ e.parameters ∧
    ∃ entry ∈ checkedEntries (valueOf params n), ComparesList d entry) ∨
  e.development.truthy = true ∧ ∃ n d finding, (n, d) ∈ e.parameters ∧
    expectedFinding? d (valueOf params n) = some finding ∧ Unshowable n finding

section Plain

variable {e : Endpoint} {r : Inbound} {params : Table Value}

/-- The parameters of such a request can always be extracted. -/
theorem extract_json (he : e.Plain) (hr : r.OfJson) : ∃ params, extract e r = .ok params := by
  cases hx : extract e r with
  | ok params => exact ⟨params, rfl⟩
  | error fault =>
      exfalso
      -- the sources are named by texts and are maps, and their values can all be coerced
      rcases extract_eq_error hx with ⟨name, hn, type, ht, -⟩ | ⟨name, v, hv, ht, hm, -⟩ |
        ⟨name, d, raw, hd, hg, hc⟩
      · rw [he.order name hn] at ht
        simp at ht
      · obtain ⟨entries, rfl⟩ := hr.maps name v hv ht
        simp [Value.entries?] at hm
      · obtain ⟨n, -, hm⟩ := Table.mem_of_get? hd
        obtain ⟨k, hk⟩ := (he.parameters n d hm).1.kind
        obtain ⟨c, hcoerce⟩ := coerce_json_eq_ok k d.array.truthy (hr.of_gives hg)
        rw [hk, coerceAs_kind, hcoerce] at hc
        simp at hc

/-- Every extracted value suits the type of its parameter. -/
theorem suits_extracted (he : e.Plain) (hr : r.OfJson) (hx : extract e r = .ok params) {n : Value}
    {d : Definition} (hd : (n, d) ∈ e.parameters) {k : Kind} (hk : d.type = .kind k) :
    Suits k (valueOf params n) := by
  rcases valueOf_extracted hx (Table.get?_of_mem he.distinct hd) with hv | ⟨raw, hg, hc⟩
  · rw [hv]
    exact suits_null k
  · rw [hk, coerceAs_kind] at hc
    exact suits_coerced (hr.of_gives hg) hc

/-- The check of such a request has a fault exactly when a list is compared with a bound. -/
theorem inspectAll_extracted_fault_iff (he : e.Plain) (hr : r.OfJson)
    (hx : extract e r = .ok params) :
    (∃ fault, inspectAll params e.parameters = .error fault) ↔
      ∃ n d, (n, d) ∈ e.parameters ∧
        ∃ entry ∈ checkedEntries (valueOf params n), ComparesList d entry := by
  -- for one parameter this is known of every value that suits its type
  have hone {n : Value} {d : Definition} (hd : (n, d) ∈ e.parameters) :
      (∃ fault, inspect d (valueOf params n) = .error fault) ↔
        ∃ entry ∈ checkedEntries (valueOf params n), ComparesList d entry := by
    obtain ⟨k, hk⟩ := (he.parameters n d hd).1.kind
    exact inspect_fault_iff (he.parameters n d hd).1 hk (suits_extracted he hr hx hd hk)
  rw [inspectAll_fault_iff]
  constructor
  · rintro ⟨⟨n, d⟩, hd, hf⟩
    exact ⟨n, d, hd, (hone hd).1 hf⟩
  · rintro ⟨n, d, hd, hc⟩
    exact ⟨(n, d), hd, (hone hd).2 hc⟩

/-! ## Rejections -/

/-- Names that are texts can be listed, as can those of the problems among them. -/
theorem problemNames_eq_ok (he : e.Plain) {problems : Problems}
    (h : inspectAll params e.parameters = .ok problems) :
    ∃ names, Value.texts 0 (Table.keys problems) = .ok names := by
  refine Value.texts_eq_ok 0 ?_
  intro n hn
  obtain ⟨⟨n', p⟩, hm, rfl⟩ := List.mem_map.1 hn
  obtain ⟨d, hd, -⟩ := (mem_inspectAll h).1 hm
  exact he.names n' (List.mem_map.2 ⟨(n', d), hd, rfl⟩)

/-- The body that shows problems has a text unless one of them cannot be shown. -/
theorem write_errorBody_eq_ok_iff (he : e.Plain) {problems : Problems}
    (h : inspectAll params e.parameters = .ok problems) (message : String) :
    (∃ s, Json.write (Gate.errorBody (codes message) problems.toValue) = .ok s) ↔
      ∀ n p, (n, p) ∈ problems → ¬ Unshowable n p.finding := by
  have hproblem {n : Value} {p : Problem} (hm : (n, p) ∈ problems) :
      (n.Naming ∧ ∃ s, Json.write p.toValue = .ok s) ↔ ¬ Unshowable n p.finding := by
    obtain ⟨d, hd, hp⟩ := (mem_inspectAll h).1 hm
    rw [write_problem_eq_ok_iff (he.parameters n d hd).1 (inspect_eq_ok hp).1.symm,
      Value.naming_iff, Unshowable]
    push Not
    rfl
  have hreport : (∃ s, Json.write problems.toValue = .ok s) ↔
      ∀ n p, (n, p) ∈ problems → ¬ Unshowable n p.finding := by
    rw [Problems.toValue, Value.write_map_eq_ok_iff]
    constructor
    · intro hw n p hm
      exact (hproblem hm).1 (hw _ (List.mem_map.2 ⟨(n, p), hm, rfl⟩))
    · intro hw entry hentry
      obtain ⟨⟨n, p⟩, hm, rfl⟩ := List.mem_map.1 hentry
      exact (hproblem hm).2 (hw n p hm)
  -- the body adds two fixed keys and a text, which can always be written
  rw [← hreport, Gate.errorBody, Value.write_map_eq_ok_iff]
  simp

end Plain

namespace Gate

section Plain

variable {g : Gate} {hooks : Hooks} {r : Inbound} {x : Exchange} {e : Endpoint}
  {params : Table Value}

theorem check_exec_plain (he : e.Plain) :
    (check hooks params e.parameters).onEvents.exec x = (inspectAll params e.parameters, x) := by
  have h := check_exec_of_null hooks params x.events
    fun entry hm => (he.parameters entry.1 entry.2 hm).2
  rw [Run.exec_onEvents, h]

/-- A rejection can be sent unless it has to show a problem that JSON cannot show. -/
theorem ofValue_rejection_fault_iff (he : e.Plain) {problems : Problems}
    (h : inspectAll params e.parameters = .ok problems) :
    (∃ fault, Reply.ofValue rejectedStatus (rejectionBody e problems) = .error fault) ↔
      e.development.truthy = true ∧ ∃ n p, (n, p) ∈ problems ∧ Unshowable n p.finding := by
  unfold rejectionBody
  cases hd : e.development.truthy with
  | false => simp [Reply.ofValue]
  | true =>
      have hw := write_errorBody_eq_ok_iff he h "Required parameters are missing"
      rw [if_pos rfl]
      show (∃ fault, Except.map _ (Json.write (errorBody rejectedMessage problems.toValue)) =
        .error fault) ↔ _
      cases hj : Json.write (errorBody rejectedMessage problems.toValue) with
      | ok s =>
          have hall := hw.1 ⟨s, hj⟩
          refine ⟨fun ⟨fault, hf⟩ => by simp at hf, ?_⟩
          rintro ⟨-, n, p, hm, hu⟩
          exact absurd hu (hall n p hm)
      | error fault =>
          refine ⟨fun _ => ⟨rfl, ?_⟩, fun _ => ⟨fault, rfl⟩⟩
          -- the problem that is to blame is not computed, only that there is one
          apply Classical.byContradiction
          intro hnone
          obtain ⟨s, hs⟩ := hw.2 fun n p hm hu => hnone ⟨n, p, hm, hu⟩
          rw [rejectedMessage] at hj
          rw [hj] at hs
          simp at hs

theorem plain_exec_of_fault (he : e.Plain) (hf : g.Finds r e) (hx : extract e r = .ok params)
    {fault : Fault} (h : inspectAll params e.parameters = .error fault) :
    (g.verify hooks r).exec x = (.error fault, x) :=
  verify_exec_of_stops (.checking hf hx (by rw [check_exec_plain he, h]))

/-- Without problems the request is continued. -/
theorem plain_exec_of_nil (he : e.Plain) (hf : g.Finds r e) (hx : extract e r = .ok params)
    (h : inspectAll params e.parameters = .ok []) :
    ∃ y, (g.verify hooks r).exec x = (.ok (), y) ∧ y.reply = x.reply ∧
      y.continued = x.continued + 1 := by
  obtain ⟨name, hname⟩ := he.slot
  have ha : g.Accepts hooks r x e params name x :=
    ⟨⟨hf, hx, by rw [check_exec_plain he, h]⟩, hname⟩
  -- no success hook is there to be told
  have hproceed : acceptedRuling e = .proceed := by
    rw [acceptedRuling, he.success_null]
    rfl
  refine ⟨{ attached e params name x with continued := x.continued + 1 }, ?_, rfl, rfl⟩
  rw [verify_eq, Run.exec_bind_of_ok (rule_exec_of_rules (.accepted ha)), hproceed]
  rfl

/-- With problems the request is rejected. -/
theorem plain_exec_of_problems (he : e.Plain) (hf : g.Finds r e) (hx : extract e r = .ok params)
    (hreply : x.reply = none) {problems : Problems}
    (h : inspectAll params e.parameters = .ok problems) (hne : problems ≠ []) :
    (g.verify hooks r).exec x = (Ruling.refuse (rejectionBody e problems)).outcome hooks x := by
  obtain ⟨names, hnames⟩ := problemNames_eq_ok he h
  have hrefuse : rejectedRuling e problems = .refuse (rejectionBody e problems) := by
    rw [rejectedRuling, he.error_null]
    rfl
  rw [← hrefuse]
  exact verify_exec_of_rules hreply
    (.rejected ⟨hf, hx, by rw [check_exec_plain he, h]⟩ hne hnames)

/-- What was found about a value is among the problems. -/
theorem shown_iff {problems : Problems} (h : inspectAll params e.parameters = .ok problems)
    {shown : Value → Finding → Prop} :
    (∃ n p, (n, p) ∈ problems ∧ shown n p.finding) ↔ ∃ n d finding, (n, d) ∈ e.parameters ∧
      expectedFinding? d (valueOf params n) = some finding ∧ shown n finding := by
  constructor
  · rintro ⟨n, p, hm, hs⟩
    obtain ⟨d, hd, hp⟩ := (mem_inspectAll h).1 hm
    exact ⟨n, d, p.finding, hd, (inspect_eq_ok hp).1.symm, hs⟩
  · rintro ⟨n, d, finding, hd, hf, hs⟩
    -- the value was checked without a fault, so what has to be found was found
    obtain ⟨found, hfound⟩ := inspectAll_eq_ok h hd
    have hexpected := (inspect_eq_ok hfound).1
    rw [hf] at hexpected
    obtain ⟨p, rfl, rfl⟩ := Option.map_eq_some_iff.1 hexpected
    exact ⟨n, p, (mem_inspectAll h).2 ⟨d, hd, hfound⟩, hs⟩

/-- A run from the first state that fails exactly under a condition, and otherwise ends with the
request either continued once and not answered, or answered once, by a rejection. -/
structure AnswersOnce (x : Exchange) (fails : Prop) (run : Except Fault Unit × Exchange) :
    Prop where
  raises : (∃ fault, run.1 = .error fault) ↔ fails
  unanswered : ∀ fault, run.1 = .error fault →
    run.2.reply = none ∧ run.2.continued = x.continued
  answers : run.1 = .ok () →
    (run.2.reply = none ∧ run.2.continued = x.continued + 1) ∨
      run.2.continued = x.continued ∧
        ∃ reply, run.2.reply = some reply ∧ reply.status = rejectedStatus

theorem answersOnce_fault {fails : Prop} {fault : Fault} (hx : x.reply = none) (h : fails) :
    AnswersOnce x fails (.error fault, x) where
  raises := ⟨fun _ => h, fun _ => ⟨fault, rfl⟩⟩
  unanswered _ _ := ⟨hx, rfl⟩
  answers h := by simp at h

theorem answersOnce_ok {fails : Prop} {y : Exchange} (h : ¬ fails)
    (hy : (y.reply = none ∧ y.continued = x.continued + 1) ∨
      y.continued = x.continued ∧
        ∃ reply, y.reply = some reply ∧ reply.status = rejectedStatus) :
    AnswersOnce x fails (.ok (), y) where
  raises := by
    constructor
    · rintro ⟨fault, hf⟩
      simp at hf
    · intro hfails
      exact absurd hfails h
  unanswered fault hf := by simp at hf
  answers _ := hy

theorem answersOnce_refuse {fails : Prop} {body : Value} (hx : x.reply = none)
    (h : (∃ fault, Reply.ofValue rejectedStatus body = .error fault) ↔ fails) :
    AnswersOnce x fails ((Ruling.refuse body).outcome hooks x) := by
  rw [Ruling.outcome]
  cases hb : Reply.ofValue rejectedStatus body with
  | error fault => exact answersOnce_fault hx (h.1 ⟨fault, hb⟩)
  | ok reply =>
      -- the body had a text, so the condition does not hold
      have hn : ¬ fails := by
        intro hfails
        obtain ⟨fault, hf⟩ := h.2 hfails
        rw [hb] at hf
        simp at hf
      exact answersOnce_ok hn (Or.inr ⟨rfl, reply, rfl, status_of_ofValue hb⟩)

/-- A plain endpoint answers a request of JSON values once, unless a fault escapes. -/
theorem plain_answers (he : e.Plain) (hr : r.OfJson) (hf : g.Finds r e)
    (hx : extract e r = .ok params) (hreply : x.reply = none) :
    AnswersOnce x (e.Fails params) ((g.verify hooks r).exec x) := by
  have hcompare := inspectAll_extracted_fault_iff he hr hx
  cases hi : inspectAll params e.parameters with
  | error fault =>
      rw [plain_exec_of_fault he hf hx hi]
      exact answersOnce_fault hreply (Or.inl (hcompare.1 ⟨fault, hi⟩))
  | ok problems =>
      -- no comparison failed, so only the rendering of a rejection is left to fail
      have hno : ¬ ∃ n d, (n, d) ∈ e.parameters ∧
          ∃ entry ∈ checkedEntries (valueOf params n), ComparesList d entry := by
        intro hc
        obtain ⟨fault, hfault⟩ := hcompare.2 hc
        rw [hi] at hfault
        simp at hfault
      have hfails : e.Fails params ↔ e.development.truthy = true ∧ ∃ n p,
          (n, p) ∈ problems ∧ Unshowable n p.finding := by
        rw [shown_iff hi, Endpoint.Fails, or_iff_right hno]
      by_cases hp : problems = []
      · subst hp
        obtain ⟨y, hy, hyr, hyc⟩ := plain_exec_of_nil he hf hx hi
        rw [hy]
        have hn : ¬ e.Fails params := by
          intro h
          obtain ⟨-, n, p, hm, -⟩ := hfails.1 h
          simp at hm
        exact answersOnce_ok hn (Or.inl ⟨hyr.trans hreply, hyc⟩)
      · rw [plain_exec_of_problems he hf hx hreply hi hp]
        exact answersOnce_refuse hreply ((ofValue_rejection_fault_iff he hi).trans hfails.symm)

/-- The endpoint of a declaration of parameters alone, under defaults without hooks, lets a fault
escape from a request of JSON values exactly when `Fails` says so, and otherwise the request is
continued or rejected, once. -/
theorem hookless_answers {g' h : Gate} {path method version : Value} {specs : Table Value}
    {order : List String} {slot : String} {development : Bool}
    (hdefaults : g.defaults = .hookless order slot development)
    (hreg : g.Registers path method (Endpoint.parametersOnly specs) version e g')
    (hspecs : ∀ s ∈ specs, Definition.HooklessSpec s.2) (hdistinct : Table.Distinct specs)
    (hf : h.Finds r e) (hr : r.OfJson) (hreply : x.reply = none) :
    ∃ params, extract e r = .ok params ∧
      AnswersOnce x (e.Fails params) ((h.verify hooks r).exec x) := by
  have hbuilt := hreg.built
  rw [hdefaults] at hbuilt
  have he := Endpoint.plain_of_ofDeclaration hspecs hdistinct hbuilt
  obtain ⟨params, hx⟩ := extract_json he hr
  exact ⟨params, hx, plain_answers he hr hf hx hreply⟩

theorem bounded_ofJson {v : Value} (hv : v.IsJson) : (boundedRequest v).OfJson := by
  constructor
  · intro name w hw _
    obtain ⟨-, rfl⟩ := Prod.mk.inj (List.mem_singleton.1 hw)
    exact ⟨_, rfl⟩
  · intro name entries hm entry he
    obtain ⟨-, hentries⟩ := Prod.mk.inj (List.mem_singleton.1 hm)
    obtain rfl := Value.map.inj hentries
    rw [List.mem_singleton.1 he]
    exact hv

theorem isJson_digit {n : Int} (h : n.natAbs < 10) : (Value.int n).IsJson := by
  have hbound : 10 ≤ Value.digitBound := by decide +kernel
  exact .int (Nat.lt_of_lt_of_le h hbound)

/-- A number is answered once, as no list is compared and nothing is shown. -/
theorem hookless_answers_two :
    (Gate.ofDefaults (boundedDefaults false)).defaults =
        .hookless standardOrder standardSlot false ∧
      (Gate.ofDefaults (boundedDefaults false)).Registers (.string "/items") (.string "GET")
        (Endpoint.parametersOnly [(.string "n", .map (boundedSpec 3))]) .null
        (boundedEndpoint 3 false) (boundedGate 3 false) ∧
      (∀ s ∈ [(Value.string "n", Value.map (boundedSpec 3))], Definition.HooklessSpec s.2) ∧
      Table.Distinct [(Value.string "n", Value.map (boundedSpec 3))] ∧
      (boundedGate 3 false).Finds (boundedRequest (.int 2)) (boundedEndpoint 3 false) ∧
      (boundedRequest (.int 2)).OfJson ∧ Exchange.fresh.reply = none ∧
      ∃ params, extract (boundedEndpoint 3 false) (boundedRequest (.int 2)) = .ok params ∧
        AnswersOnce .fresh ((boundedEndpoint 3 false).Fails params)
          (((boundedGate 3 false).verify (Hooks.ofList []) (boundedRequest (.int 2))).exec
            .fresh) := by
  have hd : Table.Distinct [(Value.string "n", Value.map (boundedSpec 3))] :=
    bounded_distinct 3 _ _ rfl rfl
  have hjson : (boundedRequest (.int 2)).OfJson := bounded_ofJson (isJson_digit (by decide))
  exact ⟨rfl, bounded_registers 3 false, bounded_hookless 3, hd, bounded_finds 3 false (.int 2),
    hjson, rfl, hookless_answers rfl (bounded_registers 3 false) (bounded_hookless 3) hd
      (bounded_finds 3 false (.int 2)) hjson rfl⟩

/-- A list inside a list is compared with the bound, and the fault escapes. -/
theorem bounded_nested_raises :
    (Gate.ofDefaults (boundedDefaults false)).Registers (.string "/items") (.string "GET")
        (Endpoint.parametersOnly [(.string "n", .map (boundedSpec 3))]) .null
        (boundedEndpoint 3 false) (boundedGate 3 false) ∧
      (∀ s ∈ [(Value.string "n", Value.map (boundedSpec 3))], Definition.HooklessSpec s.2) ∧
      (boundedRequest (.list [.list [.int 5]])).OfJson ∧
      ((boundedGate 3 false).verify (Hooks.ofList [])
        (boundedRequest (.list [.list [.int 5]]))).exec .fresh =
          (.error (.notOrdered ">" "list" "int"), .fresh) := by
  have he : (boundedEndpoint 3 false).Plain := Endpoint.plain_of_ofDeclaration (bounded_hookless 3)
    (bounded_distinct 3 _ _ rfl rfl) (bounded_built 3 false)
  have hjson : (Value.list [.list [.int 5]]).IsJson := by
    refine .list ?_
    intro v hv
    obtain rfl := List.mem_singleton.1 hv
    refine .list ?_
    intro w hw
    obtain rfl := List.mem_singleton.1 hw
    exact isJson_digit (by decide)
  refine ⟨bounded_registers 3 false, bounded_hookless 3, bounded_ofJson hjson, ?_⟩
  -- coercion keeps the inner list, and the check takes it for a number
  have hx : extract (boundedEndpoint 3 false) (boundedRequest (.list [.list [.int 5]])) =
      .ok [(.string "n", .list [.list [.float (.ofInt 5)]])] := bounded_extract 3 false rfl
  exact plain_exec_of_fault he (bounded_finds 3 false _) hx rfl

end Plain

end Gate

end ParamGate
