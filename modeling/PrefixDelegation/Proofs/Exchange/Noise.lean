import PrefixDelegation.Proofs.Exchange.Course
import PrefixDelegation.Proofs.Wire.Lossless

/-!
# Noise

A datagram is *noise* to some transactions when it is no message, or a message of a transaction that
is none of them (`IsNoise`). An exchange of one of the transactions passes noise over, wherever it
stands among the deliveries.

The comparison is between two scripts that are alike but for noise (`Script.Alike`): the second
delivers what the first does, in the same order, with noise in between (`WithNoise`). An exchange
over either comes to the same outcome and leaves them alike again (`exchange_alike`), so that what
comes next can be compared in its turn. The two need not have received the same number of
datagrams; `listen_alike` is a simulation in which the second run may take a turn alone.

Noise is told by its header, and a receive of limited size does not cut into the header
(`IsNoise.cutTo`).
-/

namespace PrefixDelegation

/-- A datagram is *noise* to some transactions: it is no message, or it is of none of them. -/
def IsNoise (xids : List TransactionId) (data : Octets) : Prop :=
  ∀ m, Message.decode data = .ok m → m.xid ∉ xids

instance (xids : List TransactionId) (data : Octets) : Decidable (IsNoise xids data) :=
  match h : Message.decode data with
  | .error _ => isTrue fun m hm => by rw [h] at hm; cases hm
  | .ok m =>
    decidable_of_iff (m.xid ∉ xids)
      ⟨fun hm m' hm' => by rw [h] at hm'; cases hm'; exact hm, fun hall => hall m h⟩

/-- Deliveries with noise in between: `WithNoise xids w w'` says that `w'` is `w` with any number of
datagrams inserted that are noise, at any places. -/
inductive WithNoise (xids : List TransactionId) : List Delivery → List Delivery → Prop
  | nil : WithNoise xids [] []
  /-- A delivery of both. -/
  | kept {w w' : List Delivery} (d : Delivery) (rest : WithNoise xids w w') :
      WithNoise xids (d :: w) (d :: w')
  /-- A datagram that is inserted. -/
  | inserted {w w' : List Delivery} {data : Octets} (noise : IsNoise xids data)
      (rest : WithNoise xids w w') : WithNoise xids w (.datagram data :: w')

/-! ### Noise is told by its header -/

/-- A message that is read from the front of a datagram, header included, is of the transaction of
the whole datagram. -/
theorem Message.decode_take {data : Octets} {m : Message} {n : Nat} (hn : 4 ≤ n)
    (h : decode (data.take n) = .ok m) : ∃ m', decode data = .ok m' ∧ m'.xid = m.xid := by
  have hhead : (data.take n).head? = data.head? := by
    rw [List.head?_take, if_neg (by omega)]
  have hfield : ((data.take n).drop 1).take 3 = (data.drop 1).take 3 := by
    rw [List.drop_take, List.take_take, Nat.min_eq_left (by omega)]
  rcases decode_cases (data.take n) with ⟨⟨hlength, htype⟩, m₁, hm₁, hholds⟩ | ⟨-, e, he, -⟩
  · obtain rfl := Except.ok.inj (hm₁.symm.trans h)
    -- the whole has the header of its front
    have hheader : HasHeader data := by
      rw [hhead] at htype
      rw [List.length_take] at hlength
      exact ⟨by omega, htype⟩
    rcases decode_cases data with ⟨-, m', hm', hholds'⟩ | ⟨hnone, -⟩
    · refine ⟨m', hm', TransactionId.eq_of_val_eq ?_⟩
      rw [hholds'.xid_eq, hholds.xid_eq, hfield]
    · exact absurd hheader hnone
  · rw [h] at he
    cases he

/-- Noise stays noise when it is cut, as long as a header is left. -/
theorem IsNoise.cutTo {xids : List TransactionId} {data : Octets} {maxSize : Int}
    (h : IsNoise xids data) (hsize : 4 ≤ maxSize) : IsNoise xids (cutTo maxSize data) := by
  intro m hm
  -- a size that is not negative cuts the end off
  rw [PrefixDelegation.cutTo, if_pos (by omega)] at hm
  obtain ⟨m', hm', hxid⟩ := Message.decode_take (by omega) hm
  rw [← hxid]
  exact h m' hm'

/-- Noise does not answer. -/
theorem IsNoise.judge_ne {xids : List TransactionId} {xid : TransactionId} {data : Octets}
    (h : IsNoise xids data) (hxid : xid ∈ xids) (expected : MessageType) (m : Message) :
    judge xid expected data ≠ .accepted m := by
  intro hm
  have hreply := judge_eq_accepted_iff.mp hm
  exact h m hreply.decodes (hreply.xid_eq ▸ hxid)

/-! ### Scripts that are alike but for noise -/

/-- Two scripts are *alike* when they have sent the same and differ in no more than noise. -/
structure Script.Alike (xids : List TransactionId) (s s' : Script) : Prop where
  clock_eq : s'.clock = s.clock
  now_eq : s'.now = s.now
  refusals_eq : s'.refusals = s.refusals
  sent_eq : s'.sent = s.sent
  deliveries : WithNoise xids s.deliveries s'.deliveries

namespace Script.Alike

variable {xids : List TransactionId} {s s' : Script}

/-- What the next send meets is the same. -/
theorem refusal_eq (h : s.Alike xids s') : s'.refusal? = s.refusal? := by
  rw [refusal?, refusal?, h.refusals_eq]

/-- A send leaves them alike. -/
theorem afterSend (h : s.Alike xids s') (data : Octets) (target : SocketAddress)
    (timeout : Seconds) :
    (s.afterSend data target timeout).Alike xids (s'.afterSend data target timeout) where
  clock_eq := h.clock_eq
  now_eq := h.now_eq
  refusals_eq := congrArg List.tail h.refusals_eq
  sent_eq := by rw [sent_afterSend, sent_afterSend, h.sent_eq]
  deliveries := h.deliveries

/-- So does a receive of each, when what they leave to deliver differs in no more than noise. -/
theorem afterReceive (h : s.Alike xids s') (maxSize : Int) (deadline : Float)
    (hrest : WithNoise xids (s.deliveries.drop 1) (s'.deliveries.drop 1)) :
    (s.afterReceives maxSize deadline 1).Alike xids (s'.afterReceives maxSize deadline 1) where
  clock_eq := h.clock_eq
  now_eq := h.now_eq
  refusals_eq := h.refusals_eq
  sent_eq := by rw [sent_afterReceives, sent_afterReceives, h.sent_eq]
  deliveries := hrest

/-- So does a receive of the second alone, under the same condition. -/
theorem afterNoise (h : s.Alike xids s') (maxSize : Int) (deadline : Float)
    (hrest : WithNoise xids s.deliveries (s'.deliveries.drop 1)) :
    s.Alike xids (s'.afterReceives maxSize deadline 1) where
  clock_eq := h.clock_eq
  now_eq := h.now_eq
  refusals_eq := h.refusals_eq
  sent_eq := by rw [sent_afterReceives, h.sent_eq]
  deliveries := hrest

end Script.Alike

/-- The first receive of a script. -/
theorem Script.receive_eq (s : Script) (maxSize : Int) (deadline : Float) :
    Transport.receive s maxSize deadline
      = ((s.yield maxSize 0).mapError .negotiation, s.afterReceives maxSize deadline 1) := by
  have hfirst := s.receive_afterReceives maxSize deadline 0
  rwa [Script.afterReceives_zero] at hfirst

/-! ### Exchanges over them -/

/-- An engine that looks at every datagram, and at its header at least. -/
structure Engine.Hears (e : Engine) : Prop where
  limit_eq : e.limit = none
  four_le : 4 ≤ e.maxSize

/-- Two ends of exchanges are alike when their outcomes are the same and their scripts alike. -/
structure Exchanged.Alike (xids : List TransactionId) (x x' : Exchanged Script) : Prop where
  outcome_eq : x'.outcome = x.outcome
  transport : x.transport.Alike xids x'.transport

section

variable {e : Engine} {xids : List TransactionId} {xid : TransactionId} {s s' : Script}

/-- An engine without a limit goes on, whatever the tally. -/
theorem Engine.Hears.unlimited (he : e.Hears) (tally : Tally) : e.limitReached? tally = none := by
  rw [Engine.limitReached?, he.limit_eq]
  rfl

/-- A turn in which both scripts yield the same leaves both runs at the same end, or it goes on in
both. -/
theorem listen_alike_of_yield_eq (he : e.Hears) (expected : MessageType) (deadline : Float)
    (tally tally' : Tally) (hyield : s'.yield e.maxSize 0 = s.yield e.maxSize 0)
    (hrest : (s.afterReceives e.maxSize deadline 1).Alike xids
      (s'.afterReceives e.maxSize deadline 1))
    (hlater : ∀ tally tally',
      (e.listen xid expected deadline tally (s.afterReceives e.maxSize deadline 1)).Alike xids
        (e.listen xid expected deadline tally' (s'.afterReceives e.maxSize deadline 1))) :
    (e.listen xid expected deadline tally s).Alike xids
      (e.listen xid expected deadline tally' s') := by
  have hr := s.receive_eq e.maxSize deadline
  have hr' := s'.receive_eq e.maxSize deadline
  rw [hyield] at hr'
  rcases hy : s.yield e.maxSize 0 with err | data
  · -- the receive fails
    rw [hy] at hr hr'
    rw [listen_of_failure (he.unlimited _) hr, listen_of_failure (he.unlimited _) hr']
    exact ⟨rfl, hrest⟩
  · rw [hy] at hr hr'
    by_cases hj : ∃ m, judge xid expected data = .accepted m
    · -- the datagram answers
      obtain ⟨m, hm⟩ := hj
      obtain ⟨journal, hx⟩ := listen_of_reply (he.unlimited tally) hr hm
      obtain ⟨journal', hx'⟩ := listen_of_reply (he.unlimited tally') hr' hm
      rw [hx, hx']
      exact ⟨rfl, hrest⟩
    · -- the datagram is passed over
      push Not at hj
      obtain ⟨record, hx⟩ := listen_of_passed (he.unlimited tally) hr hj
      obtain ⟨record', hx'⟩ := listen_of_passed (he.unlimited tally') hr' hj
      have hsame := hlater (tally.count (judge xid expected data))
        (tally'.count (judge xid expected data))
      rw [hx, hx']
      exact ⟨hsame.outcome_eq, hsame.transport⟩

/-- **Listening over scripts that are alike** comes to the same. -/
theorem listen_alike (he : e.Hears) (hxid : xid ∈ xids) (expected : MessageType) (deadline : Float)
    (tally tally' : Tally) (h : s.Alike xids s') :
    (e.listen xid expected deadline tally s).Alike xids
      (e.listen xid expected deadline tally' s') := by
  -- the induction is on how the noise stands among the deliveries
  have hnoise := h.deliveries
  generalize hw : s.deliveries = w at hnoise
  generalize hw' : s'.deliveries = w' at hnoise
  induction hnoise generalizing s s' tally tally' with
  | nil =>
    -- both scripts are used up
    have hr := s.receive_eq e.maxSize deadline
    have hr' := s'.receive_eq e.maxSize deadline
    rw [Script.yield_of_length_le _ _ (by rw [hw]; rfl)] at hr
    rw [Script.yield_of_length_le _ _ (by rw [hw']; rfl)] at hr'
    rw [listen_of_failure (he.unlimited _) hr, listen_of_failure (he.unlimited _) hr']
    exact ⟨rfl, h.afterReceive e.maxSize deadline (by rw [hw, hw']; exact .nil)⟩
  | kept d rest ih =>
    -- both scripts yield the same
    have hyield : s'.yield e.maxSize 0 = s.yield e.maxSize 0 := by
      rw [Script.yield, Script.yield, hw, hw']
      rfl
    have hrest := h.afterReceive e.maxSize deadline (by rw [hw, hw']; exact rest)
    refine listen_alike_of_yield_eq he expected deadline tally tally' hyield hrest ?_
    intro tally tally'
    exact ih tally tally' hrest (congrArg (List.drop 1) hw) (congrArg (List.drop 1) hw')
  | @inserted w w' data noise rest ih =>
    -- the second script alone yields noise, which is passed over
    have hr' := s'.receive_eq e.maxSize deadline
    have hyield : s'.yield e.maxSize 0 = .ok (cutTo e.maxSize data) := by
      rw [Script.yield, hw']
      rfl
    have hpassed := (noise.cutTo he.four_le).judge_ne hxid expected
    rw [hyield] at hr'
    obtain ⟨record, hx'⟩ := listen_of_passed (he.unlimited tally') hr' hpassed
    have hlater := ih tally
      (tally'.count (judge xid expected (cutTo e.maxSize data)))
      (h.afterNoise e.maxSize deadline (by rw [hw, hw']; exact rest)) hw
      (congrArg (List.drop 1) hw')
    rw [hx']
    exact ⟨hlater.outcome_eq, hlater.transport⟩

/-- **Exchanges over scripts that are alike** come to the same. -/
theorem exchange_alike {outbound : Message} (he : e.Hears) (hxid : outbound.xid ∈ xids)
    (asked : MessageType) (h : s.Alike xids s') :
    (e.exchange outbound asked s).Alike xids (e.exchange outbound asked s') := by
  rcases hencode : outbound.encode with err | data
  · -- the message cannot be written
    obtain ⟨journal, hx⟩ := exchange_of_unwritable e asked s hencode
    obtain ⟨journal', hx'⟩ := exchange_of_unwritable e asked s' hencode
    rw [hx, hx']
    exact ⟨rfl, h⟩
  -- the next send meets the same in both
  have hsend := s.send_eq data e.remote e.writeTimeout
  have hsend' := s'.send_eq data e.remote e.writeTimeout
  have hsent := h.afterSend data e.remote e.writeTimeout
  rw [h.refusal_eq] at hsend'
  rcases hrefusal : s.refusal? with _ | text
  · rw [hrefusal] at hsend hsend'
    cases hwait : e.readTimeout.toFloat? with
    | none =>
      -- there is no deadline
      obtain ⟨journal, hx⟩ := exchange_of_endless hencode asked hsend hwait
      obtain ⟨journal', hx'⟩ := exchange_of_endless hencode asked hsend' hwait
      rw [hx, hx']
      exact ⟨rfl, hsent⟩
    | some wait =>
      -- both listen up to the same deadline
      obtain ⟨record, hx⟩ := exchange_of_sent hencode asked hsend hwait
      obtain ⟨record', hx'⟩ := exchange_of_sent hencode asked hsend' hwait
      have hclock : Transport.clock (s'.afterSend data e.remote e.writeTimeout)
          = Transport.clock (s.afterSend data e.remote e.writeTimeout) := hsent.clock_eq
      have hlisten := listen_alike he hxid (replyType outbound asked)
        (Transport.clock (s.afterSend data e.remote e.writeTimeout) + wait) .zero .zero hsent
      rw [hx, hx', hclock]
      exact ⟨hlisten.outcome_eq, hlisten.transport⟩
  · -- the send is refused
    rw [hrefusal] at hsend hsend'
    obtain ⟨journal, hx⟩ := exchange_of_refused hencode asked hsend
    obtain ⟨journal', hx'⟩ := exchange_of_refused hencode asked hsend'
    rw [hx, hx']
    exact ⟨rfl, hsent⟩

end

end PrefixDelegation
