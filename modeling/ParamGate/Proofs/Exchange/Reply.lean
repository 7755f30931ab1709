import ParamGate.Exchange.Reply
import ParamGate.Proofs.Gate.Ruling

/-!
# The one reply of an exchange

A reply is sent by calls, and a call that fails need not be the last: what calls it may go on. The
`trace` of a row of calls says what each of them gives and in which exchange it leaves the request.
The main statement, `first_reply_stands`, says that the reply is that of the first call whose body
has a JSON text. The calls before it fail and leave no reply, and those after it fail and leave this
one. Neither kind of call runs the rest of the chain.
-/

namespace ParamGate

/-- A call that answers a request. -/
inductive Sending where
  | send (status : Int) (body : Value)
  | respond (status : Int) (body : Value) (next : Run Exchange Unit)

namespace Sending

def status : Sending → Int
  | send status _ => status
  | respond status _ _ => status

def body : Sending → Value
  | send _ body => body
  | respond _ body _ => body

def perform : Sending → Run Exchange Unit
  | send status body => ParamGate.send status body
  | respond status body next => ParamGate.respond status body next

/-- The reply that a call makes of its status and its body. -/
structure Creates (call : Sending) (reply : Reply) : Prop where
  status : reply.status = call.status
  /-- Null means that there is no body. -/
  empty : call.body = .null → reply.contentType = none ∧ reply.body = ""
  json : call.body ≠ .null →
    reply.contentType = some jsonType ∧ Json.write call.body = .ok reply.body

/-- A call that fails because its body has no JSON text, and what it leaves. -/
def Refused (e : Exchange) (call : Sending) (left : Except Fault Unit × Exchange) : Prop :=
  call.body.Unrenderable ∧ ∃ fault, Json.write call.body = .error fault ∧ left = (.error fault, e)

end Sending

/-- What each of the calls gives, and the exchange in which it leaves the request. -/
def trace (e : Exchange) : List Sending → List (Except Fault Unit × Exchange)
  | [] => []
  | call :: rest =>
      let left := call.perform.exec e
      left :: trace left.2 rest

/-- The exchange with a reply. -/
def Exchange.answered (e : Exchange) (reply : Reply) : Exchange := { e with reply := some reply }

/-! ## One call -/

/-- What answers in place of the chain differs from sending in no way. -/
theorem Sending.perform_eq (call : Sending) : call.perform = ParamGate.send call.status call.body := by
  cases call with
  | send status body => rfl
  | respond status body next => rfl

theorem Sending.creates_of_ofValue {call : Sending} {reply : Reply}
    (h : Reply.ofValue call.status call.body = .ok reply) : call.Creates reply where
  status := status_of_ofValue h
  empty := by
    intro hnull
    rw [hnull] at h
    obtain rfl := Except.ok.inj h
    exact ⟨rfl, rfl⟩
  json := by
    intro hbody
    rw [Reply.ofValue] at h
    · obtain ⟨text, htext, rfl⟩ := map_eq_ok_iff.1 h
      exact ⟨rfl, htext⟩
    · exact hbody

/-- A call on an exchange without a reply fails and changes nothing, or leaves its reply there. -/
theorem Sending.perform_unsent {e : Exchange} (he : e.reply = none) (call : Sending) :
    call.Refused e (call.perform.exec e) ∨
      ¬ call.body.Unrenderable ∧
      ∃ reply, call.Creates reply ∧ call.perform.exec e = (.ok (), e.answered reply) := by
  rw [call.perform_eq, send_exec he]
  cases h : Reply.ofValue call.status call.body with
  | ok reply =>
      right
      refine ⟨?_, reply, creates_of_ofValue h, rfl⟩
      apply (Value.write_eq_ok_iff call.body).1
      by_cases hnull : call.body = .null
      · exact ⟨"null", by rw [hnull]; rfl⟩
      · exact ⟨reply.body, ((creates_of_ofValue h).json hnull).2⟩
  | error fault =>
      left
      have hnull : call.body ≠ .null := by
        intro hnull
        rw [hnull] at h
        cases h
      have hwrite : Json.write call.body = .error fault := by
        rw [Reply.ofValue] at h
        · exact map_eq_error_iff.1 h
        · exact hnull
      refine ⟨?_, fault, hwrite, rfl⟩
      by_contra hrenderable
      obtain ⟨text, htext⟩ := (Value.write_eq_ok_iff call.body).2 hrenderable
      rw [hwrite] at htext
      cases htext

/-- A call on an exchange with a reply fails and changes nothing. -/
theorem Sending.perform_answered (e : Exchange) (reply : Reply) (call : Sending) :
    call.perform.exec (e.answered reply) = (.error .alreadySent, e.answered reply) := by
  rw [call.perform_eq]
  rfl

/-! ## Rows of calls -/

/-- Once there is a reply, every call fails and leaves it. -/
theorem trace_answered (e : Exchange) (reply : Reply) (calls : List Sending) :
    trace (e.answered reply) calls =
      calls.map fun _ => (.error .alreadySent, e.answered reply) := by
  induction calls with
  | nil => rfl
  | cons call calls ih =>
      rw [trace, call.perform_answered, ih, List.map_cons]

/-- The reply of a row of calls is that of the first one that does not fail, and the first one that
has a body with a JSON text does not fail. -/
theorem first_reply_stands {e : Exchange} (he : e.reply = none) (calls : List Sending) :
    List.Forall₂ (Sending.Refused e) calls (trace e calls) ∨
      ∃ before call after refusals reply, calls = before ++ call :: after ∧
        List.Forall₂ (Sending.Refused e) before refusals ∧
        ¬ call.body.Unrenderable ∧ call.Creates reply ∧
        trace e calls = refusals ++ (.ok (), e.answered reply) ::
          after.map fun _ => (.error .alreadySent, e.answered reply) := by
  induction calls with
  | nil => exact Or.inl .nil
  | cons call calls ih =>
      rcases call.perform_unsent he with hrefused | ⟨hrenderable, reply, hreply, hexec⟩
      · obtain ⟨fault, hwrite, hexec⟩ := hrefused.2
        rw [hexec] at hrefused
        rw [trace, hexec]
        -- the exchange is as before, so the rest of the row starts without a reply again
        rcases ih with hall | ⟨before, first, after, refusals, reply, hcalls, hbefore, hfirst⟩
        · exact Or.inl (.cons hrefused hall)
        · right
          refine ⟨call :: before, first, after, (.error fault, e) :: refusals, reply, ?_,
            .cons hrefused hbefore, hfirst.1, hfirst.2.1, ?_⟩
          · rw [hcalls, List.cons_append]
          · rw [hfirst.2.2, List.cons_append]
      · right
        refine ⟨[], call, calls, [], reply, rfl, .nil, hrenderable, hreply, ?_⟩
        rw [trace, hexec, trace_answered]
        rfl

/-- Three calls, the first with an infinity in its body. -/
def infinityFirst : List Sending :=
  [.respond 500 (.list [.float (.infinite false)]) continueChain,
    .respond 422 (.list [.bool true, .null]) continueChain, .send 200 .null]

theorem infinity_unrenderable : (Value.list [.float (.infinite false)]).Unrenderable :=
  .list (List.mem_singleton_self _) (.number trivial)

theorem flags_renderable : ¬ (Value.list [.bool true, .null]).Unrenderable :=
  (Value.write_eq_ok_iff _).1 ⟨_, rfl⟩

theorem first_reply_stands_second :
    Exchange.fresh.reply = none ∧
    ∃ reply, (Sending.respond 422 (.list [.bool true, .null]) continueChain).Creates reply ∧
      trace .fresh infinityFirst =
        [(.error .notFinite, .fresh), (.ok (), Exchange.fresh.answered reply),
          (.error .alreadySent, Exchange.fresh.answered reply)] := by
  refine ⟨rfl, ?_⟩
  rcases first_reply_stands (e := .fresh) rfl infinityFirst with
    hall | ⟨before, call, after, refusals, reply, hcalls, hbefore, hrenderable, hreply, htrace⟩
  · obtain _ | ⟨-, hrest⟩ := hall
    obtain _ | ⟨hsecond, -⟩ := hrest
    exact absurd hsecond.1 flags_renderable
  · cases hbefore with
    | nil =>
        obtain ⟨rfl, -⟩ := List.cons.inj hcalls
        exact absurd infinity_unrenderable hrenderable
    | cons hfirst hmore =>
        obtain ⟨rfl, hrest⟩ := List.cons.inj hcalls
        cases hmore with
        | nil =>
            obtain ⟨rfl, rfl⟩ := List.cons.inj hrest
            obtain ⟨-, fault, hwrite, rfl⟩ := hfirst
            have hfault : fault = .notFinite := (Except.error.inj hwrite).symm
            exact ⟨reply, hreply, by rw [htrace, hfault]; rfl⟩
        | cons hsecond _ =>
            obtain ⟨rfl, -⟩ := List.cons.inj hrest
            exact absurd hsecond.1 flags_renderable

end ParamGate
