import Mathlib.Tactic.Common
import PrefixDelegation.Exchange

/-!
# The reply to a message

What an exchange owes to its caller over *any* transport, whatever it delivers and however it fails:
a reply that is returned is of the transaction of the message that was sent, and of the type that
was awaited (`exchange_ok`).

A datagram *answers* when it decodes to such a message (`IsReply`), and the verdict on one datagram
is *accepted* exactly when it answers (`judge_eq_accepted_iff`). The loop takes one of four turns:
the limit is reached, the receive fails, the datagram answers, or it is passed over
(`listen_of_limit`, `listen_of_failure`, `listen_of_reply`, `listen_of_passed`). An exchange takes
one of four courses (`exchange_of_unwritable`, `exchange_of_refused`, `exchange_of_endless`,
`exchange_of_sent`). Nothing else unfolds the two.
-/

namespace PrefixDelegation

/-! ### Datagrams that answer -/

/-- A datagram *answers* with `m`: it decodes to `m`, which is of the transaction and of the awaited
type. The type `none` stands for any type. -/
structure IsReply (xid : TransactionId) (expected : MessageType) (data : Octets) (m : Message) :
    Prop where
  decodes : Message.decode data = .ok m
  xid_eq : m.xid = xid
  type_eq : expected = .none ∨ m.type = expected

/-- A datagram is answered by at most one message. -/
theorem IsReply.unique {xid : TransactionId} {expected : MessageType} {data : Octets}
    {m m' : Message} (h : IsReply xid expected data m) (h' : IsReply xid expected data m') :
    m = m' :=
  Except.ok.inj (h.decodes.symm.trans h'.decodes)

/-- The verdict *accepted* is given to the datagrams that answer. -/
theorem judge_eq_accepted_iff {xid : TransactionId} {expected : MessageType} {data : Octets}
    {m : Message} : judge xid expected data = .accepted m ↔ IsReply xid expected data m := by
  constructor
  · intro h
    unfold judge at h
    -- of the four verdicts, only the last is *accepted*
    split at h
    · exact absurd h (by simp)
    · next m' hm' =>
      split at h
      · exact absurd h (by simp)
      · next hxid =>
        split at h
        · next htype =>
          obtain rfl : m' = m := Verdict.accepted.inj h
          exact ⟨hm', not_not.mp hxid, htype⟩
        · exact absurd h (by simp)
  · rintro ⟨hm, hxid, htype⟩
    unfold judge
    rw [hm]
    simp only [hxid, ne_eq, not_true_eq_false, if_false, htype, if_true]

/-! ### One turn of the loop, over any transport -/

section Listen

variable {τ : Type} [Transport τ] (e : Engine) (xid : TransactionId) (expected : MessageType)
  (deadline : Float) (tally : Tally) (t : τ)

theorem listen_of_limit {limit : Int} (h : e.limitReached? tally = some limit) :
    e.listen xid expected deadline tally t
      = ⟨.error (.negotiation (.timeout (.datagramLimit xid limit))), tally, t, []⟩ := by
  rw [Engine.listen, h]

variable {e xid expected deadline tally t}

theorem listen_of_failure (h : e.limitReached? tally = none) {fault : Fault} {t' : τ}
    (hr : Transport.receive t e.maxSize deadline = (.error fault, t')) :
    e.listen xid expected deadline tally t = ⟨.error fault, tally, t', []⟩ := by
  rw [Engine.listen, h]
  simp only
  split
  · next h' => rw [hr] at h'; cases h'; rfl
  · next h' => rw [hr] at h'; cases h'

theorem listen_of_reply (h : e.limitReached? tally = none) {data : Octets} {m : Message} {t' : τ}
    (hr : Transport.receive t e.maxSize deadline = (.ok data, t'))
    (hm : judge xid expected data = .accepted m) :
    ∃ journal, e.listen xid expected deadline tally t
      = ⟨.ok m, tally.count (judge xid expected data), t', journal⟩ := by
  rw [Engine.listen, h]
  simp only
  split
  · next h' => rw [hr] at h'; cases h'
  · next h' =>
    rw [hr] at h'
    cases h'
    rw [hm]
    exact ⟨_, rfl⟩

theorem listen_of_passed (h : e.limitReached? tally = none) {data : Octets} {t' : τ}
    (hr : Transport.receive t e.maxSize deadline = (.ok data, t'))
    (hm : ∀ m, judge xid expected data ≠ .accepted m) :
    ∃ record, e.listen xid expected deadline tally t
      = (e.listen xid expected deadline (tally.count (judge xid expected data)) t').after
          record := by
  rw [Engine.listen, h]
  simp only
  split
  · next h' => rw [hr] at h'; cases h'
  · next h' =>
    rw [hr] at h'
    cases h'
    split
    · next m hm' => exact absurd hm' (hm m)
    · exact ⟨_, rfl⟩

end Listen

/-- A reply that is listened for was read from a datagram that answers. -/
theorem listen_ok {τ : Type} [Transport τ] (e : Engine) (xid : TransactionId)
    (expected : MessageType) (deadline : Float) (tally : Tally) (t : τ) {m : Message}
    (h : (e.listen xid expected deadline tally t).outcome = .ok m) :
    ∃ data, IsReply xid expected data m := by
  -- the induction is on what the transport has left to deliver
  induction hp : Transport.pending t using Nat.strongRecOn generalizing tally t with
  | _ pending ih =>
    cases hl : e.limitReached? tally with
    | some limit =>
      -- the limit is reached, and there is no reply
      rw [listen_of_limit e xid expected deadline tally t hl] at h
      exact absurd h (by simp)
    | none =>
      rcases hr : Transport.receive t e.maxSize deadline with ⟨received, t'⟩
      cases received with
      | error err =>
        -- the receive fails, and there is no reply
        rw [listen_of_failure hl hr] at h
        exact absurd h (by simp)
      | ok data =>
        by_cases hj : ∃ m', judge xid expected data = .accepted m'
        · -- the datagram answers, and its message is the reply
          obtain ⟨m', hm'⟩ := hj
          obtain ⟨journal, hx⟩ := listen_of_reply hl hr hm'
          rw [hx] at h
          obtain rfl : m' = m := Except.ok.inj h
          exact ⟨data, judge_eq_accepted_iff.mp hm'⟩
        · -- the datagram is passed over, and the reply is that of the rest
          push Not at hj
          obtain ⟨record, hx⟩ := listen_of_passed hl hr hj
          rw [hx] at h
          have hlt := Transport.pending_receive_lt t t' e.maxSize deadline data hr
          exact ih _ (hp ▸ hlt) _ _ h rfl

/-! ### The four courses of an exchange, over any transport -/

section Exchange

variable {τ : Type} [Transport τ] {e : Engine} {outbound : Message} {t t' : τ}

/-- A message that cannot be written ends the exchange before anything is sent. -/
theorem exchange_of_unwritable (e : Engine) (asked : MessageType) (t : τ) {err : EncodeError}
    (h : outbound.encode = .error err) :
    ∃ journal, e.exchange outbound asked t = ⟨.error (.unwritable err), .zero, t, journal⟩ := by
  rw [Engine.exchange, h]
  exact ⟨_, rfl⟩

variable {data : Octets} (hencode : outbound.encode = .ok data)
include hencode

/-- A send that fails ends the exchange. -/
theorem exchange_of_refused (asked : MessageType) {fault : Fault}
    (h : Transport.send t data e.remote e.writeTimeout = (.error fault, t')) :
    ∃ journal, e.exchange outbound asked t = ⟨.error fault, .zero, t', journal⟩ := by
  simp only [Engine.exchange, hencode, h]
  exact ⟨_, rfl⟩

/-- A waiting time that is no double ends the exchange behind the send. -/
theorem exchange_of_endless (asked : MessageType)
    (h : Transport.send t data e.remote e.writeTimeout = (.ok (), t'))
    (hwait : e.readTimeout.toFloat? = none) :
    ∃ journal, e.exchange outbound asked t = ⟨.error .beyondDoubles, .zero, t', journal⟩ := by
  simp only [Engine.exchange, hencode, h, hwait]
  exact ⟨_, rfl⟩

/-- Behind the send, the exchange listens up to one deadline. -/
theorem exchange_of_sent (asked : MessageType) {wait : Float}
    (h : Transport.send t data e.remote e.writeTimeout = (.ok (), t'))
    (hwait : e.readTimeout.toFloat? = some wait) :
    ∃ record, e.exchange outbound asked t
      = (e.listen outbound.xid (replyType outbound asked) (Transport.clock t' + wait)
          .zero t').after record := by
  simp only [Engine.exchange, hencode, h, hwait]
  exact ⟨_, rfl⟩

omit hencode

/-- **The reply belongs to the exchange**, whatever the transport delivers: the message could be
written, and the reply was read from a datagram that answers it. -/
theorem exchange_ok {asked : MessageType} {m : Message}
    (h : (e.exchange outbound asked t).outcome = .ok m) :
    (∃ sent, outbound.encode = .ok sent) ∧
      ∃ data, IsReply outbound.xid (replyType outbound asked) data m := by
  rcases hencode : outbound.encode with err | data
  · -- the message cannot be written, and there is no reply
    obtain ⟨journal, hx⟩ := exchange_of_unwritable e asked t hencode
    rw [hx] at h
    cases h
  rcases hsend : Transport.send t data e.remote e.writeTimeout with ⟨sent, t'⟩
  cases sent with
  | error fault =>
    -- the send fails, and there is no reply
    obtain ⟨journal, hx⟩ := exchange_of_refused hencode asked hsend
    rw [hx] at h
    cases h
  | ok _ =>
    cases hwait : e.readTimeout.toFloat? with
    | none =>
      -- neither is there one without a deadline
      obtain ⟨journal, hx⟩ := exchange_of_endless hencode asked hsend hwait
      rw [hx] at h
      cases h
    | some wait =>
      obtain ⟨record, hx⟩ := exchange_of_sent hencode asked hsend hwait
      rw [hx] at h
      exact ⟨⟨data, rfl⟩, listen_ok _ _ _ _ _ _ h⟩

end Exchange

end PrefixDelegation
