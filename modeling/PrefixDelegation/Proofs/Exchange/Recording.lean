import PrefixDelegation.Proofs.Exchange.Course

/-!
# Transports that keep a record

What a client sends can be told from its transport, if the transport keeps a record of the datagrams
that were handed over to it, refused ones included. A `Recording` transport does: a send puts its
datagram behind the record, and a receive leaves the record alone. Scripts are such transports
(`Script.sent`), and any transport becomes one when a record is put beside it (`Recorded`).

An exchange hands over one datagram, the message that it was given if that can be written, whatever
comes of it (`Recording.sent_exchange`). The loop behind the send only receives (`Recording.sent_listen`).
-/

namespace PrefixDelegation

/-- A transport that keeps a record of what was handed over to be sent, in order. -/
class Recording (τ : Type) extends Transport τ where
  /-- The datagrams that were handed over, whether they were refused or not. -/
  sent : τ → List Octets
  sent_send : ∀ (t : τ) (data : Octets) (target : SocketAddress) (timeout : Seconds),
    sent (send t data target timeout).2 = sent t ++ [data]
  sent_receive : ∀ (t : τ) (maxSize : Int) (deadline : Float),
    sent (receive t maxSize deadline).2 = sent t

/-- A script keeps a record among its events. -/
instance : Recording Script where
  sent := Script.sent
  sent_send s data target timeout := by
    -- a send that is refused is recorded like any other
    rw [s.send_eq data target timeout]
    exact s.sent_afterSend data target timeout
  sent_receive s maxSize deadline := by
    have hreceive := s.receive_afterReceives maxSize deadline 0
    rw [Script.afterReceives_zero] at hreceive
    rw [hreceive]
    exact s.sent_afterReceives maxSize deadline 1

/-- A transport with a record beside it. -/
structure Recorded (τ : Type) where
  transport : τ
  sent : List Octets

/-- Any transport can be given a record, and works as it did without one. -/
instance (τ : Type) [Transport τ] : Recording (Recorded τ) where
  clock r := Transport.clock r.transport
  now r := Transport.now r.transport
  send r data target timeout :=
    let (outcome, transport) := Transport.send r.transport data target timeout
    (outcome, ⟨transport, r.sent ++ [data]⟩)
  receive r maxSize deadline :=
    let (outcome, transport) := Transport.receive r.transport maxSize deadline
    (outcome, { r with transport })
  close r := { r with transport := Transport.close r.transport }
  pending r := Transport.pending r.transport
  pending_receive_lt r r' maxSize deadline data h := by
    obtain ⟨houtcome, rfl⟩ := Prod.mk.inj h
    exact Transport.pending_receive_lt _ _ maxSize deadline data (Prod.ext houtcome rfl)
  sent := Recorded.sent
  sent_send _ _ _ _ := rfl
  sent_receive _ _ _ := rfl

namespace Recording

variable {τ : Type} [Recording τ]

/-- Listening for a reply sends nothing. -/
theorem sent_listen (e : Engine) (xid : TransactionId) (expected : MessageType) (deadline : Float)
    (tally : Tally) (t : τ) : sent (e.listen xid expected deadline tally t).transport = sent t := by
  -- the induction is on what the transport has left to deliver
  induction hp : Transport.pending t using Nat.strongRecOn generalizing tally t with
  | _ pending ih =>
    cases hl : e.limitReached? tally with
    | some limit => rw [listen_of_limit e xid expected deadline tally t hl]
    | none =>
      have hsent := sent_receive t e.maxSize deadline
      rcases hr : Transport.receive t e.maxSize deadline with ⟨fault | data, t'⟩
      · -- the receive fails, and the loop ends
        rw [hr] at hsent
        rw [listen_of_failure hl hr, hsent]
      · rw [hr] at hsent
        by_cases hj : ∃ m, judge xid expected data = .accepted m
        · -- the datagram answers, and the loop ends
          obtain ⟨m, hm⟩ := hj
          obtain ⟨journal, hx⟩ := listen_of_reply hl hr hm
          rw [hx, hsent]
        · -- the datagram is passed over, and the loop goes on
          push Not at hj
          obtain ⟨record, hx⟩ := listen_of_passed hl hr hj
          have hlt := Transport.pending_receive_lt t t' e.maxSize deadline data hr
          have hrest := ih _ (hp ▸ hlt) (tally.count (judge xid expected data)) t' rfl
          rw [hx, ← hsent, ← hrest]
          rfl

/-- **An exchange hands over what it can write**, one datagram, whatever the transport delivers and
however it fails. -/
theorem sent_exchange (e : Engine) (outbound : Message) (asked : MessageType) (t : τ) :
    sent (e.exchange outbound asked t).transport = sent t ++ outbound.written := by
  rcases hencode : outbound.encode with err | data
  · -- nothing can be written
    obtain ⟨journal, hx⟩ := exchange_of_unwritable e asked t hencode
    rw [hx, Message.written_of_error hencode, List.append_nil]
  rw [Message.written_of_encode hencode]
  have hsent := sent_send t data e.remote e.writeTimeout
  rcases hsend : Transport.send t data e.remote e.writeTimeout with ⟨fault | _, t'⟩
  · -- the send fails
    rw [hsend] at hsent
    obtain ⟨journal, hx⟩ := exchange_of_refused hencode asked hsend
    rw [hx, ← hsent]
  · rw [hsend] at hsent
    cases hwait : e.readTimeout.toFloat? with
    | none =>
      -- there is no deadline
      obtain ⟨journal, hx⟩ := exchange_of_endless hencode asked hsend hwait
      rw [hx, ← hsent]
    | some wait =>
      obtain ⟨record, hx⟩ := exchange_of_sent hencode asked hsend hwait
      rw [hx, ← hsent]
      exact sent_listen e outbound.xid _ _ _ t'

end Recording

end PrefixDelegation
