import PrefixDelegation.Proofs.Exchange.FirstMatch
import PrefixDelegation.Proofs.Wire.Writing

/-!
# The course of an exchange over a script

An exchange over a script takes one of five courses: its message cannot be written, its send is
refused, there is no deadline to wait for, it listens and is answered, or it listens and fails.
`Engine.Exchanges` lists them, each with what comes of the exchange and with where it leaves the
script, and `exchange_course` says that every exchange takes one. Whatever is known about exchanges
over scripts is read off the list: what was sent (`Engine.Exchanges.sent_eq`), that the wall clock
stands still, which datagram answered (`Engine.Exchanges.answeredFirst`), and why an exchange fails
(`Engine.Exchanges.error_cases`).

An exchange fails for a reason of the network (`NegotiationError.IsOfNetwork`), with two exceptions
that lie in how it was set up: a message that is not writable is not sent, and a waiting time that is
no double leaves no deadline to wait for, once the send is through (`Engine.Endless`).
-/

namespace PrefixDelegation

/-! ### What was handed over to be sent -/

namespace Script

/-- The datagrams that were handed over to be sent, in order, whether they were refused or not. -/
def sent (s : Script) : List Octets :=
  s.events.filterMap fun
    | .send data _ _ => some data
    | .receive _ _ | .close => none

@[simp] theorem sent_afterSend (s : Script) (data : Octets) (target : SocketAddress)
    (timeout : Seconds) : (s.afterSend data target timeout).sent = s.sent ++ [data] :=
  List.filterMap_append

/-- Receiving sends nothing. -/
@[simp] theorem sent_afterReceives (s : Script) (maxSize : Int) (deadline : Float) (n : Nat) :
    (s.afterReceives maxSize deadline n).sent = s.sent := by
  unfold sent afterReceives
  rw [List.filterMap_append, List.filterMap_replicate_of_none rfl, List.append_nil]

end Script

/-! ### The courses -/

/-- The next send goes through, and then there is no deadline to wait for. -/
def Engine.Endless (e : Engine) (s : Script) : Prop :=
  s.refusal? = none ∧ e.readTimeout.toFloat? = none

/-- Of the datagrams that a script yields, the first that answers does so with `m`, and no receive
before it fails. -/
def Script.AnswersFirst (s : Script) (maxSize : Int) (xid : TransactionId) (expected : MessageType)
    (m : Message) : Prop :=
  ∃ i data, (∀ j < i, PassedOver xid expected (s.yield maxSize j)) ∧
    s.yield maxSize i = .ok data ∧ IsReply xid expected data m

/-- **The courses of an exchange**: `e.Exchanges outbound expected s o t` says that an exchange that
sends `outbound` over the script `s`, and awaits a reply of the expected type, comes to `o` and
leaves the script as `t`. -/
inductive Engine.Exchanges (e : Engine) (outbound : Message) (expected : MessageType)
    (s : Script) : Except Fault Message → Script → Prop
  /-- The message cannot be written. -/
  | unwritable {err : EncodeError} (encode : outbound.encode = .error err) :
      Exchanges e outbound expected s (.error (.unwritable err)) s
  /-- The send is refused. -/
  | refused {data : Octets} {text : String} (encode : outbound.encode = .ok data)
      (refusal : s.refusal? = some text) :
      Exchanges e outbound expected s (.error (.negotiation (.transport (.reported text))))
        (s.afterSend data e.remote e.writeTimeout)
  /-- There is no deadline to wait for. -/
  | endless {data : Octets} (encode : outbound.encode = .ok data) (endless : e.Endless s) :
      Exchanges e outbound expected s (.error .beyondDoubles)
        (s.afterSend data e.remote e.writeTimeout)
  /-- The exchange listens until a datagram answers. -/
  | answered {data : Octets} {wait : Float} {receives : Nat} {m : Message}
      (encode : outbound.encode = .ok data) (refusal : s.refusal? = none)
      (deadline : e.readTimeout.toFloat? = some wait)
      (ends : e.EndsWith outbound.xid expected (s.yield e.maxSize) receives (.ok m)) :
      Exchanges e outbound expected s (.ok m)
        ((s.afterSend data e.remote e.writeTimeout).afterReceives e.maxSize
          (s.clock + wait) receives)
  /-- The exchange listens until it fails. -/
  | failed {data : Octets} {wait : Float} {receives : Nat} {err : NegotiationError}
      (encode : outbound.encode = .ok data) (refusal : s.refusal? = none)
      (deadline : e.readTimeout.toFloat? = some wait)
      (ends : e.EndsWith outbound.xid expected (s.yield e.maxSize) receives (.error err)) :
      Exchanges e outbound expected s (.error (.negotiation err))
        ((s.afterSend data e.remote e.writeTimeout).afterReceives e.maxSize
          (s.clock + wait) receives)

/-- **Every exchange over a script takes one of the courses.** -/
theorem exchange_course (e : Engine) (outbound : Message) (asked : MessageType) (s : Script) :
    e.Exchanges outbound (replyType outbound asked) s (e.exchange outbound asked s).outcome
      (e.exchange outbound asked s).transport := by
  rcases hencode : outbound.encode with err | data
  · -- the message cannot be written
    obtain ⟨journal, hx⟩ := exchange_of_unwritable e asked s hencode
    rw [hx]
    exact .unwritable hencode
  have hsend := s.send_eq data e.remote e.writeTimeout
  rcases hrefusal : s.refusal? with _ | text
  · rcases hwait : e.readTimeout.toFloat? with _ | wait
    · -- there is no deadline
      rw [hrefusal] at hsend
      obtain ⟨journal, hx⟩ := exchange_of_endless hencode asked hsend hwait
      rw [hx]
      exact .endless hencode ⟨hrefusal, hwait⟩
    · -- the exchange listens
      obtain ⟨receives, o, h⟩ := exchange_settles asked hencode hrefusal hwait
      rw [h.outcome_eq, h.transport_eq]
      cases o with
      | error err => exact .failed hencode hrefusal hwait h.ends
      | ok m => exact .answered hencode hrefusal hwait h.ends
  · -- the send is refused
    rw [hrefusal] at hsend
    obtain ⟨journal, hx⟩ := exchange_of_refused hencode asked hsend
    rw [hx]
    exact .refused hencode hrefusal

/-! ### Why an exchange fails -/

/-- The network or its delay is the reason. -/
def NegotiationError.IsOfNetwork : NegotiationError → Prop
  | .timeout _ | .transport _ => True
  | .codec _ | .noActiveLease | .idsExhausted => False

/-- A receive of a script fails for a reason of the network. -/
theorem Script.isOfNetwork_of_yield {s : Script} {maxSize : Int} {i : Nat} {err : NegotiationError}
    (h : s.yield maxSize i = .error err) : err.IsOfNetwork := by
  unfold Script.yield at h
  split at h <;> cases h <;> trivial

/-- So does an exchange that ends without an answer. -/
theorem Engine.EndsWith.isOfNetwork {e : Engine} {xid : TransactionId} {expected : MessageType}
    {s : Script} {maxSize : Int} {n : Nat} {err : NegotiationError}
    (h : e.EndsWith xid expected (s.yield maxSize) n (.error err)) : err.IsOfNetwork := by
  cases h with
  | failed before admitted received => exact Script.isOfNetwork_of_yield received
  | limited before limit_eq => trivial

/-! ### What the courses have in common -/

namespace Engine.Exchanges

variable {e : Engine} {outbound m : Message} {expected : MessageType} {s t : Script}
  {o : Except Fault Message} {fault : Fault}

/-- The wall clock stands still. -/
theorem now_eq (h : e.Exchanges outbound expected s o t) : t.now = s.now := by
  cases h <;> rfl

/-- What could be written is handed over to be sent. -/
theorem sent_eq (h : e.Exchanges outbound expected s o t) :
    t.sent = s.sent ++ outbound.written := by
  cases h with
  | unwritable encode => rw [Message.written_of_error encode, List.append_nil]
  | refused encode | endless encode | answered encode | failed encode =>
    simp only [Script.sent_afterReceives, Script.sent_afterSend, Message.written_of_encode encode]

/-- An exchange of a message that is not writable fails with that, and nothing else happens. -/
theorem of_not_isWritable (h : e.Exchanges outbound expected s o t) (hnot : ¬ outbound.IsWritable) :
    ∃ err, outbound.encode = .error err ∧ o = .error (.unwritable err) ∧ t = s := by
  cases h with
  | unwritable encode => exact ⟨_, encode, rfl, rfl⟩
  | refused encode | endless encode | answered encode | failed encode =>
    exact absurd (Message.encode_eq_ok_iff.mp encode).1 hnot

/-- An exchange that could be sent, but has no deadline, fails with that. -/
theorem of_endless (h : e.Exchanges outbound expected s o t) (hwritable : outbound.IsWritable)
    (hendless : e.Endless s) : o = .error .beyondDoubles := by
  obtain ⟨hthrough, hwait⟩ := hendless
  cases h with
  | unwritable encode =>
    rw [hwritable.encode_eq] at encode
    cases encode
  | refused _ refusal =>
    rw [hthrough] at refusal
    cases refusal
  | endless => rfl
  | answered _ _ deadline | failed _ _ deadline =>
    rw [hwait] at deadline
    cases deadline

/-- An exchange that fails could not be sent, or it had no deadline, or it fails for a reason of the
network. -/
theorem error_cases (h : e.Exchanges outbound expected s (.error fault) t) :
    (¬ outbound.IsWritable ∧ ∃ err, fault = .unwritable err) ∨
      (e.Endless s ∧ fault = .beyondDoubles) ∨
        ∃ err, fault = .negotiation err ∧ err.IsOfNetwork := by
  cases h with
  | unwritable encode =>
    refine .inl ⟨fun hwritable => ?_, _, rfl⟩
    rw [hwritable.encode_eq] at encode
    cases encode
  | refused => exact .inr (.inr ⟨_, rfl, trivial⟩)
  | endless _ hendless => exact .inr (.inl ⟨hendless, rfl⟩)
  | failed _ _ _ ends => exact .inr (.inr ⟨_, rfl, ends.isOfNetwork⟩)

/-- No exchange fails for the want of a lease. -/
theorem ne_noActiveLease (h : e.Exchanges outbound expected s (.error fault) t) :
    fault ≠ .negotiation .noActiveLease := by
  rintro rfl
  rcases h.error_cases with ⟨-, _, heq⟩ | ⟨-, heq⟩ | ⟨err, heq, hnetwork⟩
  · cases heq
  · cases heq
  · cases heq
    exact hnetwork

/-- An exchange that is answered was of a message that could be written. -/
theorem isWritable_of_ok (h : e.Exchanges outbound expected s (.ok m) t) : outbound.IsWritable := by
  cases h with
  | answered encode => exact (Message.encode_eq_ok_iff.mp encode).1

/-- It had a deadline. -/
theorem toFloat?_of_ok (h : e.Exchanges outbound expected s (.ok m) t) :
    e.readTimeout.toFloat? ≠ none := by
  cases h with
  | answered _ _ deadline =>
    rw [deadline]
    exact Option.some_ne_none _

/-- What an exchange is answered with is the first datagram that answers. -/
theorem answeredFirst (h : e.Exchanges outbound expected s (.ok m) t) :
    s.AnswersFirst e.maxSize outbound.xid expected m := by
  cases h with
  | answered _ _ _ ends =>
    cases ends with
    | answered before _ received isReply => exact ⟨_, _, before, received, isReply⟩

/-- The answer is of the transaction, and of the expected type if there is one. -/
theorem answer_belongs (h : e.Exchanges outbound expected s (.ok m) t) :
    m.xid = outbound.xid ∧ (expected = .none ∨ m.type = expected) := by
  obtain ⟨_, _, _, _, isReply⟩ := h.answeredFirst
  exact ⟨isReply.xid_eq, isReply.type_eq⟩

end Engine.Exchanges

end PrefixDelegation
