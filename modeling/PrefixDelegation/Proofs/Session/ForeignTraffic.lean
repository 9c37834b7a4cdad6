import PrefixDelegation.Proofs.Exchange.Noise
import PrefixDelegation.Proofs.Session.Identifiers
import PrefixDelegation.Proofs.Session.Renewal
import PrefixDelegation.Proofs.Session.Setup

/-!
# Foreign traffic and the negotiation

Obtaining a lease makes up to two exchanges over one transport, and what else arrives on the network
arrives in between the datagrams that answer. None of it has a say: whatever is inserted that is no
message, or a message of other transactions than the two, the operation comes to the same, sends the
same, and leaves the session standing the same (`Session.obtain_undisturbed`).

The two runs are compared operation by operation. Two sessions are *alike* (`Session.Alike`) when
they differ in what the first does not show to its caller, transport, tally and journal, and their
transports differ in no more than noise. Each operation takes sessions that are alike to the same
outcome and to sessions that are alike. The second exchange begins where the first has left the
script, which need not be the same place in both runs, and gets the second identifier in both, since
the identifiers are not touched by what is received.
-/

namespace PrefixDelegation

/-- The engine of a client looks at every datagram, and at its header at least. -/
theorem ClientConfig.engine_hears (c : ClientConfig) : c.engine.Hears where
  limit_eq := rfl
  four_le := (by decide : 4 ≤ defaultMaxSize)

namespace Session

/-! ### Sessions that are alike -/

/-- A session with another transport, another tally and another journal. -/
def amid (s : Session Script) (transport : Script) (tally : Tally) (journal : Journal) :
    Session Script :=
  { s with transport, tally, journal }

/-- Two sessions are *alike* when they differ in no more than noise, and in what was told of it. -/
def Alike (xids : List TransactionId) (s s' : Session Script) : Prop :=
  ∃ transport tally journal, s.transport.Alike xids transport ∧ s' = s.amid transport tally journal

/-- Two operations end alike when they come to the same and leave sessions that are alike. -/
structure EndAlike (xids : List TransactionId) {α : Type}
    (x x' : Except Fault α × Session Script) : Prop where
  outcome_eq : x'.1 = x.1
  session : x.2.Alike xids x'.2

/-- Both are stopped by one fault, or both come to one result. -/
theorem EndAlike.courses {xids : List TransactionId} {α : Type}
    {x x' : Except Fault α × Session Script} (h : EndAlike xids x x') :
    (∃ fault t t', x = (.error fault, t) ∧ x' = (.error fault, t') ∧ t.Alike xids t') ∨
      ∃ a t t', x = (.ok a, t) ∧ x' = (.ok a, t') ∧ t.Alike xids t' := by
  rcases x with ⟨outcome, t⟩
  rcases x' with ⟨outcome', t'⟩
  obtain ⟨houtcome, hsession⟩ := h
  obtain rfl : outcome' = outcome := houtcome
  cases outcome' with
  | error fault => exact .inl ⟨fault, t, t', rfl, rfl, hsession⟩
  | ok a => exact .inr ⟨a, t, t', rfl, rfl, hsession⟩

section Prepare

variable (s : Session Script) (transport : Script) (tally : Tally) (journal : Journal)

/-- Stamping does not look at the transport. -/
theorem stamp_amid (m : Message) : (s.amid transport tally journal).stamp m
    = ((s.stamp m).1, (s.stamp m).2.amid transport tally journal) := by
  unfold stamp Sequencer.take amid
  rcases s.sequencer with ⟨_ | ⟨id, rest⟩, lastSource⟩
  · rfl
  · rfl

/-- Neither does the preparation of a Solicit. -/
theorem prepareSolicit_amid (given : Option Message) :
    (s.amid transport tally journal).prepareSolicit given
      = ((s.prepareSolicit given).1, (s.prepareSolicit given).2.amid transport tally journal) := by
  cases given with
  | some m => exact s.stamp_amid transport tally journal (askForDelegation m)
  | none =>
    exact s.draw.2.stamp_amid transport tally journal (askForDelegation (.solicit s.duid s.draw.1))

/-- Neither does the preparation of an answer. -/
theorem prepareAnswer_amid (advertise : Option Message) (type : MessageType) :
    (s.amid transport tally journal).prepareAnswer advertise type
      = ((s.prepareAnswer advertise type).1,
        (s.prepareAnswer advertise type).2.amid transport tally journal) := by
  cases hserver : Message.serverOf advertise with
  | error cause =>
    rw [prepareAnswer_of_unnamed hserver, prepareAnswer_of_unnamed hserver]
  | ok server =>
    obtain ⟨a, rfl⟩ := Message.exists_of_serverOf hserver
    have hdraw : (s.amid transport tally journal).draw
        = (s.draw.1, s.draw.2.amid transport tally journal) := rfl
    rw [prepareAnswer_of_server hserver, prepareAnswer_of_server hserver, hdraw, stamp_amid]
    rfl

end Prepare

/-! ### Each operation keeps sessions alike -/

section Operations

variable {xids : List TransactionId} {s s' : Session Script}

/-- Forgetting the error keeps sessions alike. -/
theorem Alike.with_error (h : s.Alike xids s') (error : Option NegotiationError) :
    Alike xids { s with error } { s' with error } := by
  obtain ⟨transport, tally, journal, halike, rfl⟩ := h
  exact ⟨transport, tally, journal, halike, rfl⟩

/-- So does keeping an Advertise. -/
theorem Alike.with_advertise (h : s.Alike xids s') (advertise : Option Message) :
    Alike xids { s with advertise } { s' with advertise } := by
  obtain ⟨transport, tally, journal, halike, rfl⟩ := h
  exact ⟨transport, tally, journal, halike, rfl⟩

/-- So does writing into the journals. -/
theorem Alike.note (h : s.Alike xids s') (level : Level) (text : String) :
    (s.note level text).Alike xids (s'.note level text) := by
  obtain ⟨transport, tally, journal, halike, rfl⟩ := h
  exact ⟨transport, tally, _, halike, rfl⟩

/-- Sessions that are alike prepare the same Solicit. -/
theorem Alike.prepareSolicit (h : s.Alike xids s') (given : Option Message) :
    ∃ sent s₁ s₁', s.prepareSolicit given = (sent, s₁) ∧ s'.prepareSolicit given = (sent, s₁') ∧
      s₁.Alike xids s₁' ∧ s₁.engine = s.engine := by
  obtain ⟨transport, tally, journal, halike, rfl⟩ := h
  obtain ⟨ht, hengine⟩ := s.prepareSolicit_world given
  exact ⟨_, _, _, rfl, s.prepareSolicit_amid transport tally journal given,
    ⟨transport, tally, journal, ht ▸ halike, rfl⟩, hengine⟩

/-- They prepare the same answer, or neither can. -/
theorem Alike.prepareAnswer (h : s.Alike xids s') (advertise : Option Message)
    (type : MessageType) :
    ∃ answer s₁ s₁', s.prepareAnswer advertise type = (answer, s₁) ∧
      s'.prepareAnswer advertise type = (answer, s₁') ∧ s₁.Alike xids s₁' ∧
      s₁.engine = s.engine := by
  obtain ⟨transport, tally, journal, halike, rfl⟩ := h
  obtain ⟨ht, hengine⟩ := s.prepareAnswer_world advertise type
  exact ⟨_, _, _, rfl, s.prepareAnswer_amid transport tally journal advertise type,
    ⟨transport, tally, journal, ht ▸ halike, rfl⟩, hengine⟩

/-- Sessions that are alike end alike when they are stopped. -/
theorem Alike.stoppedBy (h : s.Alike xids s') (fault : Fault) :
    EndAlike xids (s.stoppedBy fault) (s'.stoppedBy fault) := by
  obtain ⟨transport, tally, journal, halike, rfl⟩ := h
  cases fault with
  | negotiation e => exact ⟨rfl, transport, tally, _, halike, rfl⟩
  | _ => exact ⟨rfl, transport, tally, journal, halike, rfl⟩

/-- An exchange of one of the transactions ends alike. -/
theorem Alike.exchange (h : s.Alike xids s') (he : s.engine.Hears) (state : SessionState)
    {m : Message} (hxid : m.xid ∈ xids) :
    EndAlike xids (s.exchange state m) (s'.exchange state m) := by
  obtain ⟨transport, tally, journal, halike, rfl⟩ := h
  have hx := exchange_alike he hxid .none halike
  exact ⟨hx.outcome_eq, _, _, _, hx.transport, rfl⟩

/-- So does a Solicit. -/
theorem Alike.solicit (h : s.Alike xids s') (he : s.engine.Hears) {given : Option Message}
    (hxid : (s.prepareSolicit given).1.xid ∈ xids) :
    EndAlike xids (s.solicit given) (s'.solicit given) := by
  obtain ⟨sent, s₁, s₁', hp, hp', h₁, hengine⟩ := h.prepareSolicit given
  rw [hp] at hxid
  have hx := h₁.exchange (hengine ▸ he) .soliciting hxid
  rcases hx.courses with ⟨fault, s₂, s₂', hr, hr', h₂⟩ | ⟨received, s₂, s₂', hr, hr', h₂⟩
  · rw [solicit_of_error hp hr, solicit_of_error hp' hr']
    exact ⟨rfl, h₂⟩
  · rw [solicit_of_reply hp hr, solicit_of_reply hp' hr']
    exact ⟨rfl, (h₂.with_advertise (some received)).note .info _⟩

/-- So does a Request. -/
theorem Alike.request (h : s.Alike xids s') (he : s.engine.Hears) {advertise : Option Message}
    (hxid : ∀ sent, (s.prepareAnswer advertise .request).1 = .ok sent → sent.xid ∈ xids) :
    EndAlike xids (s.request advertise) (s'.request advertise) := by
  obtain ⟨answer, s₁, s₁', hp, hp', h₁, hengine⟩ := h.prepareAnswer advertise .request
  rw [hp] at hxid
  cases answer with
  | error e =>
    -- no Request can be built
    rw [request_of_unanswerable hp, request_of_unanswerable hp']
    exact ⟨rfl, h₁⟩
  | ok sent =>
    have hx := h₁.exchange (hengine ▸ he) .requesting (hxid sent rfl)
    rcases hx.courses with ⟨fault, s₂, s₂', hr, hr', h₂⟩ | ⟨received, s₂, s₂', hr, hr', h₂⟩
    · rw [request_of_error hp hr, request_of_error hp' hr']
      exact ⟨rfl, h₂⟩
    · rw [request_of_reply hp hr, request_of_reply hp' hr']
      exact ⟨rfl, h₂.note .info _⟩

/-- So does keeping the lease of a Reply. -/
theorem Alike.bind (h : s.Alike xids s') (reply : Message) :
    EndAlike xids (s.bind reply) (s'.bind reply) := by
  obtain ⟨transport, tally, journal, halike, rfl⟩ := h
  -- the renewal timers run from the same moment
  have hnow : Transport.now (s.amid transport tally journal).transport
      = Transport.now s.transport := halike.now_eq
  cases hl : Lease.ofReply reply (Transport.now s.transport) with
  | error fault =>
    rw [bind_of_fault hl, bind_of_fault (hnow ▸ hl)]
    exact ⟨rfl, transport, tally, journal, halike, rfl⟩
  | ok lease =>
    obtain ⟨_, hbind⟩ := bind_of_lease hl
    obtain ⟨journal', hbind'⟩ := bind_of_lease (s := s.amid transport tally journal) (hnow ▸ hl)
    rw [hbind, hbind']
    exact ⟨rfl, transport, tally, journal', halike, rfl⟩

end Operations

/-! ### The two identifiers of a negotiation -/

/-- The identifier that a session gives to the message that it builds after `k` others. -/
def upcoming (s : Session Script) (k : Nat) : TransactionId :=
  s.sequencer.queue[k]?.getD (Origin.drawn.own (s.random.drop k))

/-- The next message gets the first of them. -/
theorem nextId_outbox (s : Session Script) : s.outbox.nextId .drawn = s.upcoming 0 := by
  rw [Outbox.nextId, upcoming, List.head?_eq_getElem?]
  rfl

/-- The one behind it gets the second. -/
theorem nextId_push (s : Session Script) (m : Message) :
    (s.outbox.push .drawn m).nextId .drawn = s.upcoming 1 := by
  -- whether a configured identifier was used up or not, a random one was drawn
  have hqueue : (s.outbox.push .drawn m).queue = s.sequencer.queue.tail := rfl
  have hrandom : (s.outbox.push .drawn m).random = s.random.drop 1 := by
    rw [List.drop_one]
    exact congrArg Prod.snd s.random.draw_eq
  rw [Outbox.nextId, upcoming, hqueue, hrandom, List.head?_tail]

/-- A Solicit that is built carries the identifier that is next. -/
theorem prepareSolicit_xid (s : Session Script) :
    (s.prepareSolicit none).1.xid = s.outbox.nextId .drawn :=
  (s.prepareSolicit_eq none).1

/-- So does an answer. -/
theorem prepareAnswer_xid {s : Session Script} {advertise : Option Message} {type : MessageType}
    {sent : Message} (h : (s.prepareAnswer advertise type).1 = .ok sent) :
    sent.xid = s.outbox.nextId .drawn := by
  cases hserver : Message.serverOf advertise with
  | error cause =>
    rw [prepareAnswer_of_unnamed hserver] at h
    cases h
  | ok server =>
    obtain ⟨a, rfl⟩ := Message.exists_of_serverOf hserver
    obtain ⟨s₁, hp, -⟩ := prepareAnswer_eq hserver s type
    rw [hp] at h
    cases h
    rfl

section Negotiation

variable {xids : List TransactionId} {s s' : Session Script}

/-- **A negotiation ends alike** when what is inserted is noise to both of its transactions. -/
theorem Alike.negotiate (h : s.Alike xids s') (he : s.engine.Hears)
    (hfirst : s.upcoming 0 ∈ xids) (hsecond : s.upcoming 1 ∈ xids) :
    EndAlike xids s.negotiate s'.negotiate := by
  have hsolicit : EndAlike xids (s.solicit none) (s'.solicit none) := by
    apply h.solicit he
    rw [prepareSolicit_xid, nextId_outbox]
    exact hfirst
  have hb : (s.solicit none).2.outbox
      = s.outbox.push .drawn (s.prepareSolicit none).1 := s.solicit_outbox none
  have hengine := (s.solicit_makesExchange none).engine_eq
  rcases hsolicit.courses with ⟨fault, s₁, s₁', hr, hr', h₁⟩ | ⟨round, s₁, s₁', hr, hr', h₁⟩
  · rw [negotiate_of_solicit_error hr, negotiate_of_solicit_error hr']
    exact ⟨rfl, h₁⟩
  · rw [hr] at hb hengine
    -- the Request gets the second identifier, wherever the Solicit has left the two scripts
    have hrequest : EndAlike xids (s₁.request (some round.received))
        (s₁'.request (some round.received)) := by
      apply h₁.request (hengine ▸ he)
      intro sent hsent
      rw [prepareAnswer_xid hsent, hb, nextId_push]
      exact hsecond
    rcases hrequest.courses with ⟨fault, s₂, s₂', hq, hq', h₂⟩ | ⟨round', s₂, s₂', hq, hq', h₂⟩
    · rw [negotiate_of_request_error hr hq, negotiate_of_request_error hr' hq']
      exact ⟨rfl, h₂⟩
    · rw [negotiate_of_reply hr hq, negotiate_of_reply hr' hq']
      exact ⟨rfl, h₂⟩

/-- So does obtaining a lease. -/
theorem Alike.obtain (h : s.Alike xids s') (he : s.engine.Hears)
    (hfirst : s.upcoming 0 ∈ xids) (hsecond : s.upcoming 1 ∈ xids) :
    EndAlike xids s.obtain s'.obtain := by
  have hnegotiate := (h.with_error none).negotiate he hfirst hsecond
  rcases hnegotiate.courses with ⟨fault, s₁, s₁', hn, hn', h₁⟩ | ⟨reply, s₁, s₁', hn, hn', h₁⟩
  · rw [obtain_of_error hn, obtain_of_error hn']
    exact h₁.stoppedBy fault
  · rw [obtain_of_reply hn, obtain_of_reply hn']
    exact h₁.bind reply

end Negotiation

/-! ### What a negotiation sends -/

/-- What was handed over are as many datagrams as messages. -/
theorem HandedOver.length_sentBy {s : Session Script} {messages : List Message} {c : Call}
    (h : s.HandedOver messages (s.after c).transport) :
    (s.sentBy c).length = messages.length := by
  obtain ⟨datagrams, hencode, hsent⟩ := h
  have hlength := congrArg List.length hencode
  rw [List.length_map, List.length_map] at hlength
  rw [sentBy_of_sent (s := s) (c := c) hsent, hlength]

/-- The messages that obtaining a lease hands over are at most two. -/
theorem length_sentBy_obtain_le (s : Session Script) : (s.sentBy .obtain).length ≤ 2 := by
  rcases s.obtain_renewed_or_retained with hrenewed | hretained
  · obtain ⟨_, _, _, _, _, hrenewal⟩ := hrenewed.renewal
    exact Nat.le_of_eq (HandedOver.length_sentBy (c := .obtain) hrenewal.handedOver)
  · obtain ⟨sent, fault, hstopped, hsent, -⟩ := hretained.stopped
    rw [HandedOver.length_sentBy (c := .obtain) hsent]
    exact hstopped.length_le

/-- A message that obtaining a lease prepares carries the identifier that was upcoming. -/
theorem xid_of_prepared_obtain {s : Session Script} {k : Nat} {m : Message}
    (h : (s.prepared .obtain)[k]? = some m) : m.xid = s.upcoming k := by
  -- the session may have done anything before: the accounts begin with this call
  have haccounts := (Accounts.none s.outbox).handsOver (s.after_handsOver .obtain)
  rw [List.nil_append] at haccounts
  have hattempt : ((s.prepared .obtain).map (Attempt.mk Call.obtain.origin))[k]?
      = some ⟨.drawn, m⟩ := by
    rw [List.getElem?_map, h]
    rfl
  obtain ⟨hk, -⟩ := List.getElem?_eq_some_iff.mp h
  -- all of them were built
  have hbuilt : builtAmong (((s.prepared .obtain).map (Attempt.mk Call.obtain.origin)).take k)
      = k := by
    rw [← List.map_take, builtAmong, List.countP_map,
      List.countP_eq_length.mpr fun _ _ => by rfl, List.length_take_of_le (Nat.le_of_lt hk)]
  have hxid := haccounts.xid_eq k _ hattempt
  rw [dueId, hbuilt, List.length_take_of_le (by rw [List.length_map]; exact Nat.le_of_lt hk)]
    at hxid
  exact hxid

/-- So does the datagram that is handed over for it. -/
theorem xid_of_sentBy_obtain {s : Session Script} {k : Nat} {data : Octets}
    (h : (s.sentBy .obtain)[k]? = some data) : xidIn data = (s.upcoming k).val := by
  rcases s.sentBy_obtain_cases with hsent | hsent
  · rw [hsent, List.getElem?_map, Option.map_eq_some_iff] at h
    obtain ⟨m, hm, rfl⟩ := h
    rw [Message.xidIn_octets, xid_of_prepared_obtain hm]
  · rw [hsent] at h
    cases h

/-! ### Engines are kept -/

/-- So does every run. -/
theorem ran_engine {s₀ s : Session Script} {attempts : List Attempt} (h : s₀.Ran s attempts) :
    s.engine = s₀.engine :=
  congrArg Setup.engine (ran_setup h)

/-! ### Foreign traffic -/

/-- A session whose transport will deliver this. -/
def facing (s : Session Script) (deliveries : List Delivery) : Session Script :=
  { s with transport := { s.transport with deliveries } }

/-- **Foreign traffic has no say.** Take any client over a script, after any run, and the two
transaction identifiers that are upcoming. Whatever its transport is to deliver, and whatever is
inserted there that is no message or a message of none of the two transactions, obtaining a lease
comes to the same and leaves state, Advertise, lease and error the same, and it hands over the same
datagrams, at most two. They carry the two identifiers. -/
theorem obtain_undisturbed {c : ClientConfig} {identity : Identity} {random : RandomIds}
    {transport : Script} {s₀ s : Session Script} {attempts : List Attempt} {w w' : List Delivery}
    (h₀ : start c identity random transport = .ok s₀) (h : s₀.Ran s attempts)
    (hnoise : WithNoise [s.upcoming 0, s.upcoming 1] w w') :
    (s.facing w').obtain.1 = (s.facing w).obtain.1 ∧
      (s.facing w').obtain.2.standing = (s.facing w).obtain.2.standing ∧
      (s.facing w').sentBy .obtain = (s.facing w).sentBy .obtain ∧
      ((s.facing w).sentBy .obtain).length ≤ 2 ∧
      ∀ k data, ((s.facing w).sentBy .obtain)[k]? = some data →
        Octets.toNat ((data.drop 1).take 3) = (s.upcoming k).val := by
  have hears : s.engine.Hears := by
    obtain ⟨_, -, rfl⟩ := start_eq h₀
    rw [ran_engine h]
    exact c.engine_hears
  -- at the start the two scripts differ in noise alone
  have hscripts : Script.Alike [s.upcoming 0, s.upcoming 1] (s.facing w).transport
      (s.facing w').transport := ⟨rfl, rfl, rfl, rfl, hnoise⟩
  have halike : (s.facing w).Alike [s.upcoming 0, s.upcoming 1] (s.facing w') :=
    ⟨_, _, _, hscripts, rfl⟩
  have hobtain := halike.obtain hears List.mem_cons_self
    (List.mem_cons_of_mem _ List.mem_cons_self)
  obtain ⟨transport, tally, journal, hsent, hsession⟩ := hobtain.session
  refine ⟨hobtain.outcome_eq, ?_, ?_, length_sentBy_obtain_le _, fun k data hk => ?_⟩
  · rw [hsession]
    rfl
  · -- what was handed over before is the same as well
    have hbefore : (s.facing w').transport.sent = (s.facing w).transport.sent := rfl
    have hafter : (s.facing w').obtain.2.transport.sent = (s.facing w).obtain.2.transport.sent := by
      rw [hsession]
      exact hsent.sent_eq
    change (s.facing w').obtain.2.transport.sent.drop (s.facing w').transport.sent.length = _
    rw [hafter, hbefore]
    rfl
  · have hxid := xid_of_sentBy_obtain hk
    exact hxid

/-- The deliveries of a small negotiation on a network that is not quiet: among the datagrams that
answer there are one that is no message, a Reply of another transaction that delegates another
network, and a late Advertise of yet another transaction. -/
def noisyDeliveries : List Delivery :=
  [.datagram [9], .datagram (smallAdvertise 0x11), .datagram (smallReply 0x33 48),
    .datagram (smallReply 0x22 56), .datagram (smallAdvertise 0x34)]

/-- The negotiation comes to what it comes to on a quiet network, and the session is bound. -/
theorem obtain_undisturbed_of_noise :
    start { transactionIds := [0x11, 0x22] } ⟨none, [0, 3, 0, 1], []⟩ [] (Script.playing [])
        = .ok (smallSession []) ∧
      ((smallSession []).facing noisyDeliveries).obtain.2.standing
        = (smallNegotiation 56).obtain.2.standing ∧
      ((smallSession []).facing noisyDeliveries).obtain.2.state = .bound := by
  have hnoise : WithNoise [(smallSession []).upcoming 0, (smallSession []).upcoming 1]
      [.datagram (smallAdvertise 0x11), .datagram (smallReply 0x22 56)] noisyDeliveries := by
    refine .inserted ?_ (.kept _ (.inserted ?_ (.kept _ (.inserted ?_ .nil)))) <;> decide +kernel
  obtain ⟨-, hstanding, -⟩ := obtain_undisturbed (start_small []) .start hnoise
  exact ⟨start_small [], hstanding, by decide +kernel⟩

end Session

end PrefixDelegation
