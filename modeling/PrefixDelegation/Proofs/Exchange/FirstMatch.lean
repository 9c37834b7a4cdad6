import PrefixDelegation.Proofs.Exchange.Reply
import PrefixDelegation.Transport.Script

/-!
# The first datagram that answers

An exchange over a script is decided by the first receive that is not passed over. A receive is
*passed over* when it yields a datagram that does not answer (`PassedOver`).

`Engine.EndsWith` says how an exchange has to end: with the message of the first receive that
answers, with the failure of the first one that fails, or at the limit when the limit comes before
both. It speaks about what the receives yield and knows nothing of the loop, and it leaves no choice
(`Engine.EndsWith.unique`). `exchange_first_match` is the law of whole exchanges: one send, as many
receives as `Engine.EndsWith` says, all up to the same deadline, the outcome it says, and a tally
that counts the datagrams received. A message that cannot be written has no exchange of this kind,
since nothing is sent.

The proof carries one invariant through the loop: when `n` receives are over, all of them were
passed over, the limit was above each of them, the tally is that of their datagrams (`Tally.of`),
and the script is where `n` receives leave it (`Script.afterReceives`). `listen_settles` is the
induction, on the deliveries that are left.
-/

namespace PrefixDelegation

/-! ### What the receives of a script yield -/

namespace Script

/-- The datagram in a delivery, as a receive of limited size yields it. -/
def datagram? (maxSize : Int) : Delivery → Option Octets
  | .datagram data => some (cutTo maxSize data)
  | .timeout _ | .failure _ => none

/-- What the receive with a given number yields, counted from zero. A script that is used up lets
the deadline pass. -/
def yield (s : Script) (maxSize : Int) (i : Nat) : Except NegotiationError Octets :=
  match s.deliveries[i]? with
  | none => .error (.timeout .deadline)
  | some (.datagram data) => .ok (cutTo maxSize data)
  | some (.timeout text) => .error (.timeout (.reported text))
  | some (.failure text) => .error (.transport (.reported text))

/-- The datagrams that the first `n` receives yield. -/
def heard (s : Script) (maxSize : Int) (n : Nat) : List Octets :=
  (s.deliveries.take n).filterMap (datagram? maxSize)

/-- The script after `n` receives up to one deadline. -/
def afterReceives (s : Script) (maxSize : Int) (deadline : Float) (n : Nat) : Script :=
  { s with
    deliveries := s.deliveries.drop n
    events := s.events ++ List.replicate n (.receive maxSize deadline) }

/-- The script after a send: the next refusal, if any, is used up. -/
def afterSend (s : Script) (data : Octets) (target : SocketAddress) (timeout : Seconds) : Script :=
  { s with
    refusals := s.refusals.tail
    events := s.events ++ [.send data target timeout] }

/-- What the next send meets: the text of a failure, or nothing. -/
def refusal? (s : Script) : Option String := s.refusals.head?.join

variable (s : Script) (maxSize : Int) (deadline : Float)

@[simp] theorem afterReceives_zero : s.afterReceives maxSize deadline 0 = s := by
  simp [afterReceives]

/-- The next receive yields what its number says, and leaves the script one receive further. -/
theorem receive_afterReceives (n : Nat) :
    Transport.receive (s.afterReceives maxSize deadline n) maxSize deadline
      = ((s.yield maxSize n).mapError .negotiation,
        s.afterReceives maxSize deadline (n + 1)) := by
  -- the delivery with that number, if there is one, is at the front of those left
  have hhead : s.deliveries.drop n = s.deliveries[n]?.toList ++ s.deliveries.drop (n + 1) := by
    cases hd : s.deliveries[n]? with
    | none =>
      rw [List.getElem?_eq_none_iff] at hd
      rw [List.drop_eq_nil_of_le hd, List.drop_eq_nil_of_le (by omega)]
      rfl
    | some d =>
      obtain ⟨hlt, rfl⟩ := List.getElem?_eq_some_iff.mp hd
      exact List.drop_eq_getElem_cons hlt
  have hevents : (s.events ++ List.replicate n (.receive maxSize deadline))
      ++ [.receive maxSize deadline]
        = s.events ++ List.replicate (n + 1) (.receive maxSize deadline) := by
    rw [List.append_assoc, List.replicate_succ']
  change Script.receive _ _ _ = _
  unfold Script.receive Script.yield
  cases hd : s.deliveries[n]? with
  | none =>
    -- the script is used up, and stays so
    rw [hd] at hhead
    simp only [note, afterReceives, hhead, hevents, Option.toList_none, List.nil_append]
    rw [List.getElem?_eq_none_iff] at hd
    rw [List.drop_eq_nil_of_le (show s.deliveries.length ≤ n + 1 by omega)]
    rfl
  | some d =>
    rw [hd] at hhead
    cases d <;>
      simp only [note, afterReceives, hhead, hevents, Option.toList_some, List.singleton_append] <;>
      rfl

/-- A send meets the next refusal. -/
theorem send_eq (data : Octets) (target : SocketAddress) (timeout : Seconds) :
    Transport.send s data target timeout
      = (match s.refusal? with
        | none => .ok ()
        | some text => .error (.negotiation (.transport (.reported text))),
        s.afterSend data target timeout) := by
  change Script.send _ _ _ _ = _
  unfold Script.send refusal? afterSend note
  rcases s with ⟨clock, now, deliveries, refusals, events⟩
  rcases refusals with _ | ⟨_ | text, rest⟩ <;> rfl

theorem heard_succ_of_ok {n : Nat} {data : Octets} (h : s.yield maxSize n = .ok data) :
    s.heard maxSize (n + 1) = s.heard maxSize n ++ [data] := by
  unfold yield at h
  unfold heard
  rw [List.take_add_one, List.filterMap_append]
  split at h
  · cases h
  · next hd =>
    obtain rfl := Except.ok.inj h
    rw [hd]
    rfl
  · cases h
  · cases h

theorem heard_succ_of_error {n : Nat} {err : NegotiationError}
    (h : s.yield maxSize n = .error err) : s.heard maxSize (n + 1) = s.heard maxSize n := by
  unfold yield at h
  unfold heard
  rw [List.take_add_one, List.filterMap_append]
  split at h
  · next hd => rw [hd]; exact List.append_nil _
  · cases h
  · next hd => rw [hd]; exact List.append_nil _
  · next hd => rw [hd]; exact List.append_nil _

/-- As many datagrams were heard as receives are over, while none of them failed. -/
theorem length_heard {n : Nat} (h : ∀ i < n, ∃ data, s.yield maxSize i = .ok data) :
    (s.heard maxSize n).length = n := by
  induction n with
  | zero => rfl
  | succ n ih =>
    obtain ⟨data, hdata⟩ := h n (Nat.lt_succ_self n)
    rw [heard_succ_of_ok s maxSize hdata, List.length_append,
      ih fun i hi => h i (Nat.lt_succ_of_lt hi)]
    rfl

/-- A receive beyond the deliveries fails. -/
theorem yield_of_length_le {n : Nat} (h : s.deliveries.length ≤ n) :
    s.yield maxSize n = .error (.timeout .deadline) := by
  unfold yield
  rw [List.getElem?_eq_none_iff.mpr h]

end Script

/-! ### The tally of what was heard -/

/-- Whether a datagram is no message. -/
def isUndecodable (data : Octets) : Bool :=
  match Message.decode data with
  | .error _ => true
  | .ok _ => false

/-- Whether a datagram is a message of another transaction. -/
def isForeign (xid : TransactionId) (data : Octets) : Bool :=
  match Message.decode data with
  | .error _ => false
  | .ok m => m.xid ≠ xid

/-- Whether a datagram is a message of the transaction, but not of the awaited type. -/
def isUnexpected (xid : TransactionId) (expected : MessageType) (data : Octets) : Bool :=
  match Message.decode data with
  | .error _ => false
  | .ok m => m.xid = xid ∧ expected ≠ .none ∧ m.type ≠ expected

/-- The tally of the datagrams that were received. -/
def Tally.of (xid : TransactionId) (expected : MessageType) (heard : List Octets) : Tally where
  received := heard.length
  undecodable := heard.countP isUndecodable
  foreign := heard.countP (isForeign xid)
  unexpected := heard.countP (isUnexpected xid expected)

/-- The tally of one datagram more. -/
theorem Tally.of_append (xid : TransactionId) (expected : MessageType) (heard : List Octets)
    (data : Octets) :
    Tally.of xid expected (heard ++ [data])
      = (Tally.of xid expected heard).count (judge xid expected data) := by
  unfold Tally.of Tally.count judge
  simp only [List.length_append, List.countP_append, List.countP_singleton, List.length_singleton]
  unfold isUndecodable isForeign isUnexpected
  -- the three questions are asked in the order in which the verdict asks them
  cases Message.decode data with
  | error e => simp
  | ok m =>
    by_cases hxid : m.xid = xid
    · by_cases htype : expected = .none ∨ m.type = expected
      · rcases htype with h | h <;> simp [hxid, h]
      · push Not at htype
        simp [hxid, htype.1, htype.2]
    · simp [hxid]

@[simp] theorem Tally.received_count (t : Tally) (v : Verdict) :
    (t.count v).received = t.received + 1 := by
  cases v <;> rfl

/-- A datagram that is not accepted is passed over, and counted so. -/
theorem Tally.skipped_count {t : Tally} {v : Verdict} (h : ∀ m, v ≠ .accepted m) :
    (t.count v).skipped = t.skipped + 1 := by
  cases v with
  | accepted m => exact absurd rfl (h m)
  | undecodable _ | foreign _ | unexpected _ =>
    simp only [Tally.count, Tally.skipped]
    omega

/-! ### How an exchange has to end -/

/-- A receive is *passed over*: it yields a datagram, and the datagram does not answer. -/
def PassedOver (xid : TransactionId) (expected : MessageType)
    (received : Except NegotiationError Octets) : Prop :=
  ∃ data, received = .ok data ∧ ∀ m, ¬ IsReply xid expected data m

/-- Whether an exchange still looks at the receive with a given number, counted from zero. -/
def Engine.Admits (e : Engine) (i : Nat) : Prop := ∀ limit, e.limit = some limit → (i : Int) < limit

/-- **The end of an exchange**, from what its receives yield: the number of receives it takes, and
what comes of it. -/
inductive Engine.EndsWith (e : Engine) (xid : TransactionId) (expected : MessageType)
    (yield : Nat → Except NegotiationError Octets) : Nat → Except NegotiationError Message → Prop
  /-- The first receive that is not passed over answers. -/
  | answered {i : Nat} {data : Octets} {m : Message}
      (before : ∀ j < i, PassedOver xid expected (yield j)) (admitted : e.Admits i)
      (received : yield i = .ok data) (isReply : IsReply xid expected data m) :
      EndsWith e xid expected yield (i + 1) (.ok m)
  /-- The first receive that is not passed over fails. -/
  | failed {i : Nat} {err : NegotiationError}
      (before : ∀ j < i, PassedOver xid expected (yield j)) (admitted : e.Admits i)
      (received : yield i = .error err) :
      EndsWith e xid expected yield (i + 1) (.error err)
  /-- All receives up to the limit are passed over; a negative limit allows none. -/
  | limited {limit : Int} (before : ∀ j < limit.toNat, PassedOver xid expected (yield j))
      (limit_eq : e.limit = some limit) :
      EndsWith e xid expected yield limit.toNat (.error (.timeout (.datagramLimit xid limit)))

section EndsWith

variable {e : Engine} {xid : TransactionId} {expected : MessageType}
  {yield : Nat → Except NegotiationError Octets}

/-- A receive that answers is not passed over. -/
theorem PassedOver.not_isReply {received : Except NegotiationError Octets} {data : Octets}
    {m : Message} (h : PassedOver xid expected received) (hr : received = .ok data) :
    ¬ IsReply xid expected data m := by
  obtain ⟨data', hdata', hno⟩ := h
  obtain rfl := Except.ok.inj (hr.symm.trans hdata')
  exact hno m

/-- A receive that fails is not passed over. -/
theorem PassedOver.not_error {received : Except NegotiationError Octets} {err : NegotiationError}
    (h : PassedOver xid expected received) : received ≠ .error err := by
  obtain ⟨data, rfl, -⟩ := h
  simp

/-- The receive that is not passed over and has only such before it is found once. -/
theorem first_unique {i i' : Nat} (before : ∀ j < i, PassedOver xid expected (yield j))
    (before' : ∀ j < i', PassedOver xid expected (yield j))
    (h : ¬ PassedOver xid expected (yield i)) (h' : ¬ PassedOver xid expected (yield i')) :
    i = i' := by
  rcases Nat.lt_trichotomy i i' with hlt | heq | hgt
  · exact absurd (before' i hlt) h
  · exact heq
  · exact absurd (before i' hgt) h'

/-- The limit is not reached before a receive that is admitted and not passed over. -/
theorem not_limited {i : Nat} {limit : Int}
    (admitted : e.Admits i) (limit_eq : e.limit = some limit)
    (h : ¬ PassedOver xid expected (yield i))
    (before : ∀ j < limit.toNat, PassedOver xid expected (yield j)) : False := by
  have hi := admitted limit limit_eq
  exact h (before i (by omega))

/-- **An exchange has one end**: what the receives yield fixes how many there are and what comes of
them. -/
theorem Engine.EndsWith.unique {n n' : Nat} {o o' : Except NegotiationError Message}
    (h : e.EndsWith xid expected yield n o) (h' : e.EndsWith xid expected yield n' o') :
    n = n' ∧ o = o' := by
  -- neither a receive that answers nor one that fails is passed over
  have of_reply : ∀ {i : Nat} {data : Octets} {m : Message}, yield i = .ok data →
      IsReply xid expected data m → ¬ PassedOver xid expected (yield i) :=
    fun hr ha hp => hp.not_isReply hr ha
  have of_error : ∀ {i : Nat} {err : NegotiationError}, yield i = .error err →
      ¬ PassedOver xid expected (yield i) :=
    fun hr hp => hp.not_error hr
  -- so both ends are found at the one receive that is not passed over, unless the limit is met
  cases h with
  | answered before admitted received isReply =>
    have hn := of_reply received isReply
    cases h' with
    | answered before' admitted' received' isReply' =>
      obtain rfl := first_unique before before' hn (of_reply received' isReply')
      obtain rfl := Except.ok.inj (received.symm.trans received')
      exact ⟨rfl, congrArg _ (isReply.unique isReply')⟩
    | failed before' admitted' received' =>
      obtain rfl := first_unique before before' hn (of_error received')
      exact absurd (received.symm.trans received') (by simp)
    | limited before' limit_eq' => exact (not_limited admitted limit_eq' hn before').elim
  | failed before admitted received =>
    have hn := of_error received
    cases h' with
    | answered before' admitted' received' isReply' =>
      obtain rfl := first_unique before before' hn (of_reply received' isReply')
      exact absurd (received.symm.trans received') (by simp)
    | failed before' admitted' received' =>
      obtain rfl := first_unique before before' hn (of_error received')
      obtain rfl := Except.error.inj (received.symm.trans received')
      exact ⟨rfl, rfl⟩
    | limited before' limit_eq' => exact (not_limited admitted limit_eq' hn before').elim
  | limited before limit_eq =>
    cases h' with
    | answered before' admitted' received' isReply' =>
      exact (not_limited admitted' limit_eq (of_reply received' isReply') before).elim
    | failed before' admitted' received' =>
      exact (not_limited admitted' limit_eq (of_error received') before).elim
    | limited before' limit_eq' =>
      obtain rfl := Option.some.inj (limit_eq.symm.trans limit_eq')
      exact ⟨rfl, rfl⟩

end EndsWith

/-! ### The loop -/

/-- The limit is reached by the tally of `n` datagrams, while it was above each of them. -/
theorem limitReached?_eq_some {e : Engine} {tally : Tally} {limit : Int}
    (h : e.limitReached? tally = some limit) (admitted : ∀ j < tally.received, e.Admits j) :
    e.limit = some limit ∧ tally.received = limit.toNat := by
  unfold Engine.limitReached? at h
  obtain ⟨hlimit, hle⟩ := Option.filter_eq_some_iff.mp h
  refine ⟨hlimit, ?_⟩
  rw [decide_eq_true_eq] at hle
  cases hn : tally.received with
  | zero => omega
  | succ n =>
    -- the datagram before was admitted, so the limit was met just now
    have hlt := admitted n (by omega) limit hlimit
    omega

/-- An exchange whose limit is not reached looks at the next receive. -/
theorem admits_of_limitReached? {e : Engine} {tally : Tally} (h : e.limitReached? tally = none) :
    e.Admits tally.received := by
  intro limit hlimit
  unfold Engine.limitReached? at h
  rw [hlimit, Option.filter_some] at h
  by_contra hge
  rw [if_pos (by simpa using hge)] at h
  exact absurd h (by simp)

/-- What has come of an exchange over a script: it has ended as it has to, its tally is that of the
datagrams it received, and the script is where its receives left it. -/
structure Exchanged.Settles (x : Exchanged Script) (e : Engine) (xid : TransactionId)
    (expected : MessageType) (deadline : Float) (s : Script) (receives : Nat)
    (o : Except NegotiationError Message) : Prop where
  ends : e.EndsWith xid expected (s.yield e.maxSize) receives o
  outcome_eq : x.outcome = o.mapError .negotiation
  tally_eq : x.tally = Tally.of xid expected (s.heard e.maxSize receives)
  transport_eq : x.transport = s.afterReceives e.maxSize deadline receives

/-- **The loop settles the exchange.** After `n` receives that were all admitted and passed over,
the loop goes on until the exchange has ended. The induction is on the deliveries that are left: a
datagram that is passed over is one of them. -/
theorem listen_settles (e : Engine) (xid : TransactionId) (expected : MessageType)
    (deadline : Float) (s : Script) (n : Nat)
    (before : ∀ j < n, PassedOver xid expected (s.yield e.maxSize j))
    (admitted : ∀ j < n, e.Admits j) :
    ∃ receives o, (e.listen xid expected deadline (Tally.of xid expected (s.heard e.maxSize n))
      (s.afterReceives e.maxSize deadline n)).Settles e xid expected deadline s receives o := by
  induction hleft : s.deliveries.length - n using Nat.strongRecOn generalizing n with
  | _ left ih =>
    have hreceived : (Tally.of xid expected (s.heard e.maxSize n)).received = n :=
      s.length_heard e.maxSize fun j hj => (before j hj).imp fun _ h => h.1
    have hr := s.receive_afterReceives e.maxSize deadline n
    cases hl : e.limitReached? (Tally.of xid expected (s.heard e.maxSize n)) with
    | some limit =>
      -- the limit is reached
      obtain ⟨hlimit, hn⟩ := limitReached?_eq_some hl (hreceived.symm ▸ admitted)
      rw [hreceived] at hn
      subst hn
      rw [listen_of_limit _ _ _ _ _ _ hl]
      exact ⟨_, _, .limited before hlimit, rfl, rfl, rfl⟩
    | none =>
      have hadm : e.Admits n := hreceived ▸ admits_of_limitReached? hl
      cases hy : s.yield e.maxSize n with
      | error err =>
        -- the receive fails
        rw [hy] at hr
        rw [listen_of_failure hl hr]
        exact ⟨n + 1, _, .failed before hadm hy, rfl,
          by rw [s.heard_succ_of_error e.maxSize hy], rfl⟩
      | ok data =>
        rw [hy] at hr
        have hheard := s.heard_succ_of_ok e.maxSize hy
        by_cases hj : ∃ m, judge xid expected data = .accepted m
        · -- the datagram answers
          obtain ⟨m, hm⟩ := hj
          obtain ⟨journal, hx⟩ := listen_of_reply hl hr hm
          rw [hx]
          exact ⟨n + 1, _, .answered before hadm hy (judge_eq_accepted_iff.mp hm), rfl,
            by rw [hheard, Tally.of_append], rfl⟩
        · -- the datagram is passed over, and fewer deliveries are left
          push Not at hj
          obtain ⟨record, hx⟩ := listen_of_passed hl hr hj
          have hpassed : PassedOver xid expected (s.yield e.maxSize n) :=
            ⟨data, hy, fun m hm => hj m (judge_eq_accepted_iff.mpr hm)⟩
          have hlt : n < s.deliveries.length := by
            by_contra hge
            rw [s.yield_of_length_le e.maxSize (by omega)] at hy
            cases hy
          -- the invariant holds one receive further
          obtain ⟨receives, o, h⟩ := ih (s.deliveries.length - (n + 1)) (by omega) (n + 1)
            (fun j hj' => (Nat.lt_succ_iff_lt_or_eq.mp hj').elim (before j) (· ▸ hpassed))
            (fun j hj' => (Nat.lt_succ_iff_lt_or_eq.mp hj').elim (admitted j) (· ▸ hadm)) rfl
          rw [hx, ← Tally.of_append, ← hheard]
          exact ⟨receives, o, h.ends, h.outcome_eq, h.tally_eq, h.transport_eq⟩

/-- Receives that are passed over are all counted as such. -/
theorem skipped_heard (s : Script) (maxSize : Int) {xid : TransactionId} {expected : MessageType}
    {n : Nat} (h : ∀ j < n, PassedOver xid expected (s.yield maxSize j)) :
    (Tally.of xid expected (s.heard maxSize n)).skipped = n := by
  induction n with
  | zero => rfl
  | succ n ih =>
    obtain ⟨data, hdata, hno⟩ := h n (Nat.lt_succ_self n)
    have hj : ∀ m, judge xid expected data ≠ .accepted m :=
      fun m hm => hno m (judge_eq_accepted_iff.mp hm)
    rw [s.heard_succ_of_ok maxSize hdata, Tally.of_append, Tally.skipped_count hj,
      ih fun j hj' => h j (Nat.lt_succ_of_lt hj')]

/-- Every datagram received was passed over, except the one that answered. -/
theorem Engine.EndsWith.received_eq {e : Engine} {xid : TransactionId} {expected : MessageType}
    {s : Script} {receives : Nat} {o : Except NegotiationError Message}
    (h : e.EndsWith xid expected (s.yield e.maxSize) receives o) :
    (Tally.of xid expected (s.heard e.maxSize receives)).received
      = (Tally.of xid expected (s.heard e.maxSize receives)).skipped
        + if o.isOk then 1 else 0 := by
  -- as long as no receive fails, every one of them received a datagram
  have received_of : ∀ {n : Nat}, (∀ j < n, PassedOver xid expected (s.yield e.maxSize j)) →
      (Tally.of xid expected (s.heard e.maxSize n)).received = n :=
    fun before => s.length_heard e.maxSize fun j hj => (before j hj).imp fun _ h => h.1
  cases h with
  | answered before admitted received isReply =>
    rw [s.heard_succ_of_ok e.maxSize received, Tally.of_append, Tally.received_count,
      judge_eq_accepted_iff.mpr isReply, received_of before]
    exact congrArg (· + 1) (skipped_heard s e.maxSize before).symm
  | failed before admitted received =>
    rw [s.heard_succ_of_error e.maxSize received, received_of before, skipped_heard s _ before]
    rfl
  | limited before limit_eq =>
    rw [received_of before, skipped_heard s _ before]
    rfl

/-! ### Whole exchanges -/

/-- Which negotiation error an outcome is can be read off the fault. -/
theorem mapError_negotiation_inj {o o' : Except NegotiationError Message}
    (h : o.mapError Fault.negotiation = o'.mapError Fault.negotiation) : o = o' := by
  cases o with
  | error err =>
    cases o' with
    | error err' => exact congrArg _ (Fault.negotiation.inj (Except.error.inj h))
    | ok m' => cases h
  | ok m =>
    cases o' with
    | error err' => cases h
    | ok m' => exact congrArg _ (Except.ok.inj h)

/-- An exchange that has a deadline settles once its send is through. -/
theorem exchange_settles {e : Engine} {outbound : Message} {data : Octets} {s : Script}
    {wait : Float} (asked : MessageType) (hencode : outbound.encode = .ok data)
    (hrefusal : s.refusal? = none)
    (hwait : e.readTimeout.toFloat? = some wait) :
    ∃ receives o, (e.exchange outbound asked s).Settles e outbound.xid (replyType outbound asked)
      (s.clock + wait) (s.afterSend data e.remote e.writeTimeout) receives o := by
  have hsend := s.send_eq data e.remote e.writeTimeout
  rw [hrefusal] at hsend
  obtain ⟨record, hx⟩ := exchange_of_sent hencode asked hsend hwait
  obtain ⟨receives, o, h⟩ := listen_settles e outbound.xid (replyType outbound asked)
    (s.clock + wait) (s.afterSend data e.remote e.writeTimeout) 0
    (fun j hj => absurd hj (Nat.not_lt_zero j)) (fun j hj => absurd hj (Nat.not_lt_zero j))
  rw [Script.afterReceives_zero] at h
  rw [hx]
  exact ⟨receives, o, h.ends, h.outcome_eq, h.tally_eq, h.transport_eq⟩

/-- **First-match law.** An exchange over a script of a message that can be written makes one send;
one that cannot fails with that, and leaves the script as it was. If the send fails, so does the
exchange, and nothing is received. Otherwise all its receives have the same deadline, and the
exchange takes as many of them, and comes to the outcome, that `Engine.EndsWith` says and nothing
else: the message of the first receive that answers, if it comes before any failure and within the
limit, else the first failure, or the limit if that comes before both. The tally is that of the
datagrams received, all of which were passed over but for the one that answered. A waiting time that
is no double leaves no deadline to wait for. -/
theorem exchange_first_match (e : Engine) (outbound : Message) (asked : MessageType) (s : Script) :
    let x := e.exchange outbound asked s
    let expected := replyType outbound asked
    match outbound.encode with
    | .error err => x.outcome = .error (.unwritable err) ∧ x.tally = .zero ∧ x.transport = s
    | .ok data =>
      let sent := s.afterSend data e.remote e.writeTimeout
      match s.refusal?, e.readTimeout.toFloat? with
      | some text, _ => x.outcome = .error (.negotiation (.transport (.reported text))) ∧
          x.tally = .zero ∧ x.transport = sent
      | none, none => x.outcome = .error .beyondDoubles ∧ x.tally = .zero ∧ x.transport = sent
      | none, some wait => ∃ receives,
          (∀ n o, e.EndsWith outbound.xid expected (s.yield e.maxSize) n o ↔
            n = receives ∧ x.outcome = o.mapError .negotiation) ∧
          x.transport = sent.afterReceives e.maxSize (s.clock + wait) receives ∧
          x.tally = Tally.of outbound.xid expected (s.heard e.maxSize receives) ∧
          x.tally.received = x.tally.skipped + if x.outcome.isOk then 1 else 0 := by
  intro x expected
  rcases hencode : outbound.encode with err | data
  · -- nothing can be sent
    obtain ⟨journal, hx⟩ := exchange_of_unwritable e asked s hencode
    simp only [x, hx, and_self]
  dsimp only
  have hsend := s.send_eq data e.remote e.writeTimeout
  split
  · next text hrefusal =>
    -- the send fails
    rw [hrefusal] at hsend
    obtain ⟨journal, hx⟩ := exchange_of_refused hencode asked hsend
    simp only [x, hx, and_self]
  · next hrefusal hwait =>
    -- there is no deadline
    rw [hrefusal] at hsend
    obtain ⟨journal, hx⟩ := exchange_of_endless hencode asked hsend hwait
    simp only [x, hx, and_self]
  · next wait hrefusal hwait =>
    -- the exchange listens until it has ended
    obtain ⟨receives, o, h⟩ := exchange_settles asked hencode hrefusal hwait
    have houtcome : x.outcome = o.mapError .negotiation := h.outcome_eq
    have htally : x.tally = Tally.of outbound.xid expected (s.heard e.maxSize receives) :=
      h.tally_eq
    refine ⟨receives, fun n o' => ⟨fun h' => ?_, ?_⟩, h.transport_eq, htally, ?_⟩
    · -- there is no other end
      obtain ⟨hn, ho⟩ := h'.unique h.ends
      exact ⟨hn, ho ▸ houtcome⟩
    · rintro ⟨rfl, ho⟩
      rw [houtcome] at ho
      rw [← mapError_negotiation_inj ho]
      exact h.ends
    · have hok : (o.mapError Fault.negotiation).isOk = o.isOk := by cases o <;> rfl
      rw [htally, houtcome, hok]
      exact h.ends.received_eq

end PrefixDelegation
