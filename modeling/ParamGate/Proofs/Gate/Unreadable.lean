import ParamGate.Proofs.Gate.DefaultText

/-!
# Requests whose parameters cannot be extracted

A definition that was not parsed may name a type that there is not, and this is found out by the
first request that gives its parameter a value. `Endpoint.FailsAt` says at which parameter
extraction stops for that reason, by the order of the sources and of their entries; what was taken
before cannot hide the parameter (`Endpoint.FailsAt.extract_eq`). Such a request is answered by the
error hook of its endpoint, which is told once and owns the reply, or else by a reply that shows the
mistake (`Gate.unreadable_answered`). The error hook of the parameter itself is not asked for, so a
parameter that has one and stands in an endpoint without is answered by the reply
(`Gate.parameter_hook_not_told`).
-/

namespace ParamGate

open Text

/-! ## Where extraction stops -/

section First

variable {declared : Table Definition} {r : Inbound} {params : Table Value} {fault : Fault}

/-- Entries that cannot all be taken have a first one that cannot. -/
theorem first_of_takeEntries {entries : List (Value × Value)}
    (h : takeEntries declared params entries = .error fault) :
    ∃ before name raw after next, entries = before ++ (name, raw) :: after ∧
      takeEntries declared params before = .ok next ∧
      takeEntry declared next name raw = .error fault := by
  induction entries generalizing params with
  | nil => simp [takeEntries] at h
  | cons entry entries ih =>
      rw [takeEntries] at h
      rcases bind_eq_error_iff.1 h with h | ⟨next, hnext, h⟩
      · exact ⟨[], entry.1, entry.2, entries, params, rfl, rfl, h⟩
      · obtain ⟨before, name, raw, after, last, rfl, hbefore, hlast⟩ := ih h
        refine ⟨entry :: before, name, raw, after, last, rfl, ?_, hlast⟩
        rw [takeEntries, hnext, ok_bind, hbefore]

/-- Sources that cannot all be taken have a first one that cannot. -/
theorem first_of_takeSources {order : List Value}
    (h : takeSources declared r params order = .error fault) :
    ∃ earlier source later taken, order = earlier ++ source :: later ∧
      takeSources declared r params earlier = .ok taken ∧
      (r.source source >>= takeSource declared taken) = .error fault := by
  induction order generalizing params with
  | nil => simp [takeSources] at h
  | cons s order ih =>
      rw [takeSources] at h
      rcases bind_eq_error_iff.1 h with hs | ⟨source, hs, h⟩
      · exact ⟨[], s, order, params, rfl, rfl, by rw [hs, error_bind]⟩
      rcases bind_eq_error_iff.1 h with ht | ⟨next, ht, h⟩
      · exact ⟨[], s, order, params, rfl, rfl, by rw [hs, ok_bind, ht]⟩
      · obtain ⟨earlier, t, later, taken, rfl, hearlier, hlast⟩ := ih h
        refine ⟨s :: earlier, t, later, taken, rfl, ?_, hlast⟩
        rw [takeSources, hs, ok_bind, ht, ok_bind, hearlier]

theorem takeSources_append (earlier later : List Value) :
    takeSources declared r params (earlier ++ later) =
      takeSources declared r params earlier >>= fun taken =>
        takeSources declared r taken later := by
  induction earlier generalizing params with
  | nil => rfl
  | cons s earlier ih =>
      rw [List.cons_append, takeSources, takeSources]
      cases r.source s with
      | error fault => rfl
      | ok source =>
          rw [ok_bind, ok_bind]
          cases takeSource declared params source with
          | error fault => rfl
          | ok next => exact ih

end First

namespace Endpoint

variable {e : Endpoint} {r : Inbound} {name : Value} {d : Definition} {cause : DeclarationError}

/-- Extraction comes to an entry with this name: the sources and the entries before it are taken. -/
def Reaches (e : Endpoint) (r : Inbound) (name : Value) : Prop :=
  ∃ earlier source later taken before raw after params,
    e.order = earlier ++ source :: later ∧
    takeSources e.parameters r [] earlier = .ok taken ∧
    r.source source = .ok (.map (before ++ (name, raw) :: after)) ∧
    takeEntries e.parameters taken before = .ok params

/-- Extraction comes to a parameter whose declared type is none of the types. -/
structure FailsAt (e : Endpoint) (r : Inbound) (name : Value) (d : Definition)
    (cause : DeclarationError) : Prop where
  declared : e.parameters.get? name = some d
  unknown : Kind.parse d.type = .error (.declaration cause)
  reached : e.Reaches r name

/-- Nothing is stored for a parameter whose type is none of the types. -/
theorem keptByTaking_of_unknown {declared : Table Definition} (hd : declared.get? name = some d)
    (hk : Kind.parse d.type = .error (.declaration cause)) :
    KeptByTaking declared r fun params => params.get? name = none := by
  intro params n d' raw v hnone hd' _ _ hc
  rw [Table.get?_put]
  split
  · rename_i hkey
    rw [Table.get?_congr declared hkey, hd] at hd'
    obtain rfl := Option.some.inj hd'
    rw [coerceAs, hk] at hc
    simp at hc
  · exact hnone

/-- A mistake in a declaration is met at an entry whose parameter has no type. -/
theorem unknown_of_takeEntry {declared : Table Definition} {params : Table Value} {raw : Value}
    (h : takeEntry declared params name raw = .error (.declaration cause)) :
    ∃ d, declared.get? name = some d ∧ Kind.parse d.type = .error (.declaration cause) := by
  unfold takeEntry at h
  split at h
  · simp at h
  · rename_i d hd
    split at h
    · refine ⟨d, hd, ?_⟩
      rcases bind_eq_error_iff.1 (map_eq_error_iff.1 h) with hk | ⟨k, -, hc⟩
      · exact hk
      -- with a type coercion fails at the digit limit only
      · exact Fault.noConfusion (limited_coerce k _ raw _ hc)
    · simp at h

theorem failsAt_of_extract (h : extract e r = .error (.declaration cause)) :
    ∃ name d, e.FailsAt r name d cause := by
  obtain ⟨earlier, s, later, taken, horder, hearlier, h⟩ := first_of_takeSources h
  rcases bind_eq_error_iff.1 h with hs | ⟨source, hs, h⟩
  · obtain ⟨type, -, hf⟩ := source_eq_error hs
    simp at hf
  · unfold takeSource at h
    split at h
    · split at h
      · obtain ⟨before, name, raw, after, params, rfl, hbefore, hlast⟩ := first_of_takeEntries h
        obtain ⟨d, hd, hk⟩ := unknown_of_takeEntry hlast
        exact ⟨name, d, hd, hk, earlier, s, later, taken, before, raw, after, params, horder,
          hearlier, hs, hbefore⟩
      · simp at h
    · simp at h

theorem FailsAt.extract_eq (h : e.FailsAt r name d cause) :
    extract e r = .error (.declaration cause) := by
  obtain ⟨earlier, s, later, taken, before, raw, after, params, horder, hearlier, hs, hbefore⟩ :=
    h.reached
  have hkept := keptByTaking_of_unknown (r := r) h.declared h.unknown
  have htaken : taken.get? name = none := takeSources_induction hkept rfl hearlier
  have hgiven : ∀ entry ∈ before, r.Gives entry.1 entry.2 := by
    intro entry hentry
    rcases source_eq_ok hs with hnull | ⟨n, hn⟩
    · simp at hnull
    · exact ⟨n, _, entry.1, hn, List.mem_append_left _ hentry, rfl⟩
  have hparams : params.get? name = none := takeEntries_induction hkept hgiven htaken hbefore
  -- the parameter has no value yet, so its entry is coerced and the type is looked at
  have hentry : takeEntry e.parameters params name raw = .error (.declaration cause) := by
    unfold takeEntry
    rw [h.declared]
    simp only [currentValue, hparams, Option.getD_none, Value.isNull, if_true]
    rw [coerceAs, h.unknown]
    rfl
  rw [extract, horder, takeSources_append, hearlier, ok_bind, takeSources, hs, ok_bind,
    takeSource_map, takeEntries_append, hbefore, ok_bind, takeEntries, hentry]
  rfl

end Endpoint

/-! ## The answer -/

/-- The reply to a request whose parameters cannot be extracted. -/
def unreadableReply (message : String) : Reply :=
  .json rejectedStatus
    ("\x7b\"error\":" ++ Json.quoted message ++ ",\"params\":\x7b\x7d\x7d")

namespace Gate

theorem errorBody_written (message : String) :
    Reply.ofValue rejectedStatus (errorBody (codes message) (.map [])) =
      .ok (unreadableReply message) := by
  have herror : Json.quoted "error" = "\"error\"" := by decide
  have hparams : Json.quoted "params" = "\"params\"" := by decide
  have hwritten : Json.write (errorBody (codes message) (.map [])) =
      .ok ("\x7b" ++ String.intercalate "," ["\"error\"" ++ ":" ++ Json.quoted message,
        "\"params\"" ++ ":" ++ ("\x7b" ++ String.intercalate "," [] ++ "\x7d")] ++ "\x7d") := by
    rw [← herror, ← hparams, errorBody, Value.ofCodes_codes]
    rfl
  have hjoined : "\x7b" ++ String.intercalate "," ["\"error\"" ++ ":" ++ Json.quoted message,
        "\"params\"" ++ ":" ++ ("\x7b" ++ String.intercalate "," [] ++ "\x7d")] ++ "\x7d" =
      "\x7b\"error\":" ++ Json.quoted message ++ ",\"params\":\x7b\x7d\x7d" := by
    apply String.toList_injective
    simp
  rw [errorBody, Reply.ofValue]
  · rw [← errorBody, hwritten, hjoined]
    rfl
  · simp

/-- A message with a surrogate cannot be sent. -/
theorem errorBody_not_written {message : Codes} (h : ∀ s, message ≠ codes s) :
    Reply.ofValue rejectedStatus (errorBody message (.map [])) = .error .loneSurrogate := by
  have hcodes := Value.codes?_ofCodes message
  rcases Value.ofCodes_isText message with ⟨s, hs⟩ | ⟨ns, hs⟩
  · rw [hs] at hcodes
    exact absurd (Option.some.inj hcodes).symm (h s)
  · rw [errorBody, hs]
    rfl

section Answer

variable {g : Gate} {hooks : Hooks} {r : Inbound} {x : Exchange} {e : Endpoint}
  {cause : DeclarationError}

/-- The ruling on such a request is carried out in the state in which it came in. -/
theorem verify_exec_unreadable (hx : x.reply = none) (hf : g.Finds r e)
    (h : extract e r = .error (.declaration cause)) :
    (g.verify hooks r).exec x = (unreadableRuling e cause).outcome hooks x :=
  verify_exec_of_rules hx (.unreadable hf h)

theorem outcome_unreadable_of_falsy (h : e.error.truthy = false) {message : String}
    (hm : cause.message = codes message) :
    (unreadableRuling e cause).outcome hooks x =
      (.ok (), { x with reply := some (unreadableReply message) }) := by
  rw [unreadableRuling, if_neg (by simp [h]), Ruling.outcome, hm, errorBody_written]

theorem outcome_unreadable_of_surrogate (h : e.error.truthy = false)
    (hm : ∀ message, cause.message ≠ codes message) :
    (unreadableRuling e cause).outcome hooks x = (.error .loneSurrogate, x) := by
  rw [unreadableRuling, if_neg (by simp [h]), Ruling.outcome, errorBody_not_written hm]

theorem outcome_unreadable_of_truthy (h : e.error.truthy = true) :
    (unreadableRuling e cause).outcome hooks x =
      x.told hooks e.error (.unreadable cause.message) := by
  rw [unreadableRuling, if_pos h, Ruling.outcome]

/-- What a hook is told stands at the end of the events, and its actions leave none. -/
theorem told_events (hooks : Hooks) (h : Hook) (notice : Notice) (x : Exchange) :
    (x.told hooks (.hook h) notice).2.events =
      x.events ++ [.notified h.name notice x.attributes] :=
  performAll_events _ _

theorem told_of_not_callable {v : Value} (hv : v.isCallable = false) (notice : Notice) :
    x.told hooks v notice = (.error (.notCallable v.typeName), x) := by
  cases v with
  | hook h => simp [Value.isCallable] at hv
  | _ => rfl

/-- A request whose extraction meets a mistake in a declaration has come to a parameter whose type
is none of the types. If its endpoint has an error hook, the hook is told the mistake, once, and
what it does is all that happens. If the endpoint has none, the mistake is sent as a reply, the
chain is not continued and no hook is told, whatever hook the parameter itself has; a message with a
surrogate cannot be sent, and then a fault is all that there is. -/
theorem unreadable_answered (hooks : Hooks) (hx : x.reply = none) (hf : g.Finds r e)
    (h : extract e r = .error (.declaration cause)) :
    (∃ name d, e.FailsAt r name d cause) ∧
    (∀ hook, e.error = .hook hook →
      (g.verify hooks r).exec x =
        (performAll (hooks.script hook (.unreadable cause.message) x)).exec
          { x with events := x.events ++
            [.notified hook.name (.unreadable cause.message) x.attributes] } ∧
      ((g.verify hooks r).exec x).2.events =
        x.events ++ [.notified hook.name (.unreadable cause.message) x.attributes]) ∧
    (e.error.truthy = false →
      (∀ message, cause.message = codes message → (g.verify hooks r).exec x =
        (.ok (), { x with reply := some (unreadableReply message) })) ∧
      ((∀ message, cause.message ≠ codes message) →
        (g.verify hooks r).exec x = (.error .loneSurrogate, x))) ∧
    (e.error.truthy = true → e.error.isCallable = false →
      (g.verify hooks r).exec x = (.error (.notCallable e.error.typeName), x)) := by
  have hexec : (g.verify hooks r).exec x = (unreadableRuling e cause).outcome hooks x :=
    verify_exec_unreadable hx hf h
  refine ⟨Endpoint.failsAt_of_extract h, ?_, ?_, ?_⟩
  · intro hook hhook
    have htruthy : e.error.truthy = true := by
      rw [hhook]
      rfl
    rw [hexec, outcome_unreadable_of_truthy htruthy, hhook]
    exact ⟨rfl, told_events hooks hook _ x⟩
  · intro hfalsy
    rw [hexec]
    exact ⟨fun _ hm => outcome_unreadable_of_falsy hfalsy hm,
      fun hm => outcome_unreadable_of_surrogate hfalsy hm⟩
  · intro htruthy hv
    rw [hexec, outcome_unreadable_of_truthy htruthy, told_of_not_callable hv]

end Answer

/-! ## A parameter of a type that there is not -/

/-- A definition of that kind with an error hook. -/
def datedDefinition (error : Value) : Definition where
  type := .string "date"
  array := .bool false
  default := .null
  required := .bool false
  min := .null
  max := .null
  description := .null
  validate := .null
  error := error
  success := .null

/-- An endpoint of one such parameter that is given in the query, with an error hook of its own. -/
def datedEndpoint (own shared : Value) : Endpoint :=
  { boundedEndpoint 3 false with
    parameters := [(.string "n", datedDefinition own)]
    order := [.string "query"]
    error := shared }

def datedGate (own shared : Value) : Gate :=
  ⟨boundedDefaults false,
    Registry.empty.put ⟨.string "/items", .string "GET", .null⟩ (datedEndpoint own shared)⟩

/-- A hook that does nothing. -/
def idleHook : Hook := ⟨"idle", 0⟩

section Dated

variable (own shared : Value)

theorem dated_finds : (datedGate own shared).Finds (boundedRequest (.string "1"))
    (datedEndpoint own shared) := by
  show Registry.lookup _ (.string "/items") (.string "GET") .null = _
  rw [Registry.lookup, ofValues_items]
  rfl

/-- Extraction comes to the parameter with nothing taken before. -/
theorem dated_failsAt : (datedEndpoint own shared).FailsAt (boundedRequest (.string "1"))
    (.string "n") (datedDefinition own) (.unknownType (codes "date")) := by
  have htoken : Kind.ofToken? "date" = none := congrArg Kind.ofName? (Text.lower_trim_ascii rfl)
  have hunknown : Kind.parse (.string "date") =
      .error (.declaration (.unknownType (codes "date"))) := by
    rw [Kind.parse, Kind.parseToken, lossy_codes, htoken]
  exact ⟨rfl, hunknown, [], .string "query", [], [], [], .string "1", [], [], rfl, rfl, rfl, rfl⟩

end Dated

/-- What is wrong with its type. -/
def datedMessage : String := "Invalid type defined for parameter: date"

/-- A hook of the endpoint is told the mistake. -/
theorem unreadable_answered_dated :
    Exchange.fresh.reply = none ∧
    ((datedGate .null (.hook idleHook)).verify (Hooks.ofList [.acting []])
      (boundedRequest (.string "1"))).exec .fresh =
      (.ok (), { Exchange.fresh with
        events := [.notified "idle" (.unreadable (codes datedMessage)) []] }) := by
  have hfresh : Exchange.fresh.reply = none := rfl
  refine ⟨hfresh, ?_⟩
  obtain ⟨-, htold, -⟩ := unreadable_answered (Hooks.ofList [.acting []]) hfresh
    (dated_finds .null (.hook idleHook)) (dated_failsAt .null (.hook idleHook)).extract_eq
  rw [(htold idleHook rfl).1]
  rfl

/-- A hook of the parameter alone is not told: the mistake is sent. -/
theorem parameter_hook_not_told :
    (datedEndpoint (.hook idleHook) .null).FailsAt (boundedRequest (.string "1")) (.string "n")
      (datedDefinition (.hook idleHook)) (.unknownType (codes "date")) ∧
    (datedDefinition (.hook idleHook)).error = .hook idleHook ∧
    ((datedGate (.hook idleHook) .null).verify (Hooks.ofList [.acting []])
      (boundedRequest (.string "1"))).exec .fresh =
      (.ok (), { Exchange.fresh with reply := some (unreadableReply datedMessage) }) := by
  have hfails := dated_failsAt (.hook idleHook) .null
  have hmessage : (DeclarationError.unknownType (codes "date")).message = codes datedMessage := rfl
  refine ⟨hfails, rfl, ?_⟩
  rw [verify_exec_unreadable rfl (dated_finds _ _) hfails.extract_eq,
    outcome_unreadable_of_falsy rfl hmessage]

end Gate

end ParamGate
