import PrefixDelegation.Proofs.Session.Escape

/-!
# A lease is renewed whole, or kept

Obtaining a lease changes Advertise and state on the way, and it can be stopped at many places. The
lease is not touched until everything is there. `Session.obtain_all_or_nothing` says so for every
session over a script: what comes of the operation is exactly one of two things.

* The session is *renewed* (`Session.Renewed`). A Solicit and a Request were sent, and nothing else.
  An Advertise of the Solicit's transaction that names a server was accepted and is kept, and the
  lease is the one granted by the first Reply of the Request's transaction that came behind the
  Request.
* The session has *retained* its lease (`Session.Retained`). `Session.Stopped` lists where the
  operation can have been stopped and by what. At most a Solicit and a Request were sent, and the
  Request only if an Advertise of the Solicit's transaction that names a server had been accepted.
  Nothing was sent if the Solicit cannot be written.
  If what stopped the operation is a negotiation error, then the operation returned, and the session
  has failed with that error.

The two exchanges share one script: the Request is sent, and its Reply is listened for, where the
Solicit's exchange has left the script. That is why the statements carry the script in between.
-/

namespace PrefixDelegation

namespace Session

/-! ### What comes of the operation -/

/-- Some messages were written and handed over to be sent, in order, and nothing else was, by the time
that the script of the session has come to be `t`. -/
def HandedOver (s : Session Script) (messages : List Message) (t : Script) : Prop :=
  ∃ datagrams, messages.map Message.encode = datagrams.map .ok ∧
    t.sent = s.transport.sent ++ datagrams

/-- The Solicit was answered by an Advertise of its transaction that names a server, and its
exchange left the script as `t`. -/
structure Offered (s : Session Script) (solicit advertise : Message) (t : Script) : Prop where
  solicit_type : solicit.type = .solicit
  exchanged : s.engine.Exchanges solicit .advertise s.transport (.ok advertise) t
  advertise_type : advertise.type = .advertise
  xid_eq : advertise.xid = solicit.xid
  server : (advertise.firstOption? .serverId).isSome

/-- The two exchanges that renew a lease, and what they leave behind. The Request was sent over the
script `t`. -/
structure Renewal (s s' : Session Script) (solicit advertise request reply : Message)
    (t : Script) : Prop where
  offered : s.Offered solicit advertise t
  advertise_eq : s'.advertise = some advertise
  request_type : request.type = .request
  exchanged : s.engine.Exchanges request .reply t (.ok reply) s'.transport
  /-- The Reply is the first of its transaction that came behind the Request. -/
  first : t.AnswersFirst s.engine.maxSize request.xid .reply reply
  handedOver : s.HandedOver [solicit, request] s'.transport
  lease_eq : Lease.ofReply reply s'.transport.now = .ok s'.lease

/-- The operation has renewed the lease of a session that stood at `s`. -/
structure Renewed (s : Session Script) (x : Except Fault Unit × Session Script) : Prop where
  returned : x.1 = .ok ()
  state_eq : x.2.state = .bound
  error_eq : x.2.error = none
  renewal : ∃ solicit advertise request reply t, s.Renewal x.2 solicit advertise request reply t

/-- **Where the operation can be stopped**: `s.Stopped sent fault t` says that it can be stopped by
`fault` once the messages `sent` were sent, and leave the script as `t`. -/
inductive Stopped (s : Session Script) : List Message → Fault → Script → Prop
  /-- The Solicit cannot be written, and nothing is sent. -/
  | unwritable {solicit : Message} {err : EncodeError} (solicit_type : solicit.type = .solicit)
      (encode : solicit.encode = .error err) : Stopped s [] (.unwritable err) s.transport
  /-- The Solicit gets no answer. -/
  | unanswered {solicit : Message} {fault : Fault} {t : Script}
      (solicit_type : solicit.type = .solicit) (writable : solicit.IsWritable)
      (exchanged : s.engine.Exchanges solicit .advertise s.transport (.error fault) t) :
      Stopped s [solicit] fault t
  /-- The Advertise names no server that a Request could be sent to. -/
  | unnamed {solicit advertise : Message} {t : Script} (solicit_type : solicit.type = .solicit)
      (exchanged : s.engine.Exchanges solicit .advertise s.transport (.ok advertise) t)
      (server : advertise.firstOption? .serverId = none) :
      Stopped s [solicit] (.negotiation (.codec (.advertise .noServer))) t
  /-- The Request gets no answer. -/
  | unconfirmed {solicit advertise request : Message} {fault : Fault} {t t' : Script}
      (offered : s.Offered solicit advertise t) (request_type : request.type = .request)
      (writable : request.IsWritable)
      (exchanged : s.engine.Exchanges request .reply t (.error fault) t') :
      Stopped s [solicit, request] fault t'
  /-- The Reply grants no lease. -/
  | ungranted {solicit advertise request reply : Message} {fault : Fault} {t t' : Script}
      (offered : s.Offered solicit advertise t) (request_type : request.type = .request)
      (exchanged : s.engine.Exchanges request .reply t (.ok reply) t')
      (ungranted : Lease.ofReply reply t'.now = .error fault) :
      Stopped s [solicit, request] fault t'

/-- What a caller sees of an operation that was stopped. A negotiation error is recorded, and the
operation returns; any other fault reaches the caller, and the session is left at work. -/
def Reports (x : Except Fault Unit × Session Script) : Fault → Prop
  | .negotiation err => x.1 = .ok () ∧ x.2.state = .failed ∧ x.2.error = some err
  | fault => x.1 = .error fault ∧ x.2.error = none ∧
      (x.2.state = .soliciting ∨ x.2.state = .requesting)

/-- The operation was stopped, and the session has the lease that it had. -/
structure Retained (s : Session Script) (x : Except Fault Unit × Session Script) : Prop where
  lease_eq : x.2.lease = s.lease
  stopped : ∃ sent fault, s.Stopped sent fault x.2.transport ∧
    s.HandedOver sent x.2.transport ∧ Reports x fault

variable {s s₁ : Session Script}

/-- One message is handed over in an exchange, -/
theorem handedOver_of_exchanged {m : Message} {expected : MessageType} {o : Except Fault Message}
    {t : Script} (hwritable : m.IsWritable)
    (hx : s.engine.Exchanges m expected s.transport o t) : s.HandedOver [m] t := by
  refine ⟨[m.octets], ?_, ?_⟩
  · rw [List.map_singleton, hwritable.encode_eq]
    rfl
  · rw [hx.sent_eq, hwritable.written_eq]

/-- and what is handed over behind the Solicit is the second. -/
theorem Offered.handedOver {solicit advertise request : Message} {expected : MessageType}
    {o : Except Fault Message} {t t' : Script} (h : s.Offered solicit advertise t)
    (hwritable : request.IsWritable) (hx : s.engine.Exchanges request expected t o t') :
    s.HandedOver [solicit, request] t' := by
  have hsolicit := h.exchanged.isWritable_of_ok
  refine ⟨[solicit.octets, request.octets], ?_, ?_⟩
  · rw [List.map_cons, List.map_singleton, hsolicit.encode_eq, hwritable.encode_eq]
    rfl
  · rw [hx.sent_eq, h.exchanged.sent_eq, hsolicit.written_eq, hwritable.written_eq,
      List.append_assoc]
    rfl

/-! ### Being stopped -/

/-- A session does not end bound when it was stopped. -/
theorem Reports.state_ne {x : Except Fault Unit × Session Script} {fault : Fault}
    (h : Reports x fault) : x.2.state ≠ .bound := by
  intro hbound
  cases fault with
  | negotiation err =>
    obtain ⟨-, hstate, -⟩ := h
    rw [hbound] at hstate
    cases hstate
  | _ =>
    obtain ⟨-, -, hstate⟩ := h
    rw [hbound] at hstate
    simp at hstate

/-- So it does not when it has retained its lease. -/
theorem Retained.state_ne {x : Except Fault Unit × Session Script} (h : s.Retained x) :
    x.2.state ≠ .bound := by
  obtain ⟨_, _, _, _, hreports⟩ := h.stopped
  exact hreports.state_ne

namespace Stopped

variable {sent : List Message} {fault : Fault} {t : Script}

/-- The messages were sent in their order, and nothing else was. -/
theorem handedOver (h : s.Stopped sent fault t) : s.HandedOver sent t := by
  cases h with
  | unwritable => exact ⟨[], rfl, (List.append_nil _).symm⟩
  | unanswered _ writable exchanged => exact handedOver_of_exchanged writable exchanged
  | unnamed _ exchanged => exact handedOver_of_exchanged exchanged.isWritable_of_ok exchanged
  | unconfirmed offered _ writable exchanged => exact offered.handedOver writable exchanged
  | ungranted offered _ exchanged => exact offered.handedOver exchanged.isWritable_of_ok exchanged

/-- There were two of them at most. -/
theorem length_le (h : s.Stopped sent fault t) : sent.length ≤ 2 := by
  cases h with
  | unwritable => exact Nat.zero_le 2
  | unanswered | unnamed => exact Nat.le_succ 1
  | unconfirmed | ungranted => exact Nat.le_refl 2

/-- The want of a lease to give back is not among the reasons. -/
theorem ne_noActiveLease (h : s.Stopped sent fault t) : fault ≠ .negotiation .noActiveLease := by
  cases h with
  | unanswered _ _ exchanged => exact exchanged.ne_noActiveLease
  | unwritable | unnamed => simp
  | unconfirmed _ _ _ exchanged => exact exchanged.ne_noActiveLease
  | ungranted _ _ _ ungranted =>
    -- taking a lease fails with no negotiation error at all
    rcases Lease.ofReply_error ungranted with ⟨e, rfl⟩ | rfl
    · simp
    · simp

/-- A session at work that is stopped reports what stopped it, and has the lease it had. -/
theorem retained (h : s.Stopped sent fault s₁.transport) (hwork : s.AtWork s₁) :
    s.Retained (s₁.stoppedBy fault) := by
  have hne := h.ne_noActiveLease
  cases fault with
  | negotiation err =>
    have hstate : (s₁.fail err).state = .failed :=
      s₁.fail_state fun heq => hne (congrArg Fault.negotiation heq)
    exact ⟨hwork.lease_eq, sent, _, h, h.handedOver, rfl, hstate, rfl⟩
  | _ => exact ⟨hwork.lease_eq, sent, _, h, h.handedOver, rfl, hwork.error_eq, hwork.state_eq⟩

end Stopped

/-! ### The courses of the operation -/

/-- A Reply that grants no lease stops the operation. -/
theorem bind_of_ungranted {reply : Message} {fault : Fault}
    (h : Lease.ofReply reply (Transport.now s₁.transport) = .error fault) :
    s₁.bind reply = s₁.stoppedBy fault := by
  rw [bind_of_fault h]
  -- none of the reasons is a negotiation error, which would be recorded
  rcases Lease.ofReply_error h with ⟨e, rfl⟩ | rfl
  · rfl
  · rfl

/-- Once an Advertise is accepted that names a server, the Request decides. -/
theorem obtain_of_offered {solicit : Message} {round : Round} (hwork : s.AtWork s₁)
    (hengine : s₁.engine = s.engine)
    (hr : { s with error := none }.solicit none = (.ok round, s₁))
    (hadvertise : s₁.advertise = some round.received)
    (hoffered : s.Offered solicit round.received s₁.transport) :
    s.Renewed s.obtain ∨ s.Retained s.obtain := by
  obtain ⟨server, hserver⟩ := Option.isSome_iff_exists.mp hoffered.server
  have hnamed : Message.serverOf (some round.received) = .ok server := by
    rw [Message.serverOf_of_advertise hoffered.advertise_type, hserver, Option.elim_some]
  obtain ⟨request, _, hp, htype, hsends⟩ := request_sends hnamed s₁
  -- the client could be named in the Solicit, and what is copied was read
  obtain ⟨-, hread⟩ := solicit_heard (congrArg Prod.fst hr)
  have hwritable : request.IsWritable := (isWritable_prepareAnswer hread hp).mpr (duid_of_heard hr)
  have hwork' := hwork.request (some round.received)
  have hkept := s₁.request_advertise (some round.received)
  rcases hr' : s₁.request (some round.received) with ⟨fault | round', s₂⟩
  · -- the Request gets no answer
    rw [hr'] at hsends hwork'
    have hx := hsends.exchanged_of_error
    rw [htype, hengine] at hx
    have hstopped : s.Stopped [solicit, request] fault s₂.transport :=
      .unconfirmed hoffered htype hwritable hx
    rw [obtain_of_error (negotiate_of_request_error hr hr')]
    exact .inr (hstopped.retained hwork')
  · rw [hr'] at hsends hwork' hkept
    have hx := hsends.exchanged_of_ok
    rw [htype, hengine] at hx
    rw [obtain_of_reply (negotiate_of_reply hr hr')]
    rcases hl : Lease.ofReply round'.received (Transport.now s₂.transport) with fault | lease
    · -- the Reply grants no lease
      have hstopped : s.Stopped [solicit, request] fault s₂.transport :=
        .ungranted hoffered htype hx hl
      rw [bind_of_ungranted hl]
      exact .inr (hstopped.retained hwork')
    · -- everything is there
      left
      obtain ⟨journal, hbind⟩ := bind_of_lease hl
      rw [hbind]
      have hrenewal : s.Renewal { s₂ with lease, state := .bound, journal } solicit round.received
          request round'.received s₁.transport := {
        offered := hoffered
        advertise_eq := hkept.trans hadvertise
        request_type := htype
        exchanged := hx
        first := hx.answeredFirst
        handedOver := hoffered.handedOver hwritable hx
        lease_eq := hl }
      exact ⟨rfl, rfl, hwork'.error_eq, _, _, _, _, _, hrenewal⟩

/-- The operation renews the lease or retains it. -/
theorem obtain_renewed_or_retained (s : Session Script) :
    s.Renewed s.obtain ∨ s.Retained s.obtain := by
  have hwork := s.solicit_atWork
  have hsends := solicit_sends { s with error := none } none
  obtain ⟨-, htype⟩ := prepareSolicit_standing { s with error := none } none trivial
  have hstanding := solicit_standing { s with error := none } none trivial
  -- the Solicit that is sent was prepared by the session
  generalize ({ s with error := none }.prepareSolicit none).1 = solicit at hsends htype
  rcases hr : { s with error := none }.solicit none with ⟨fault | round, s₁⟩
  · -- the Solicit gets no answer
    rw [hr] at hwork hsends
    have hx := hsends.exchanged_of_error
    rw [htype] at hx
    have hstopped : ∃ sent, s.Stopped sent fault s₁.transport := by
      by_cases hwritable : solicit.IsWritable
      · exact ⟨_, .unanswered htype hwritable hx⟩
      · -- it was not even sent
        obtain ⟨_, hencode, hfault, hsame⟩ := hx.of_not_isWritable hwritable
        cases hfault
        rw [hsame]
        exact ⟨_, .unwritable htype hencode⟩
    obtain ⟨sent, hstopped⟩ := hstopped
    rw [obtain_of_error (negotiate_of_solicit_error hr)]
    exact .inr (hstopped.retained hwork)
  · rw [hr] at hwork hsends hstanding
    have hx := hsends.exchanged_of_ok
    rw [htype] at hx
    rcases hstanding with ⟨fault, hfault, -⟩ | ⟨round', hround, hadvertise_type, hs⟩
    · cases hfault
    obtain rfl := Except.ok.inj hround
    rcases hserver : round.received.firstOption? .serverId with _ | server
    · -- the Advertise names no server
      have hunnamed : Message.serverOf (some round.received) = .error .noServer := by
        rw [Message.serverOf_of_advertise hadvertise_type, hserver, Option.elim_none]
      have hstopped : s.Stopped [solicit] _ s₁.transport := .unnamed htype hx hserver
      rw [obtain_of_error (negotiate_of_request_error hr (request_of_unnamed hunnamed s₁))]
      exact .inr (hstopped.retained hwork)
    · -- it does, and the Request is sent
      have hoffered : s.Offered solicit round.received s₁.transport := {
        solicit_type := htype
        exchanged := hx
        advertise_type := hadvertise_type
        xid_eq := hx.answer_belongs.1
        server := by rw [hserver]; rfl }
      exact obtain_of_offered hwork hsends.engine_eq hr (congrArg Standing.advertise hs) hoffered

/-- **All or nothing.** Whatever a script delivers and however it fails, and wherever the session
stood, obtaining a lease renews the lease or retains the one there was, and never both. -/
theorem obtain_all_or_nothing (s : Session Script) :
    Xor (s.Renewed s.obtain) (s.Retained s.obtain) := by
  rcases s.obtain_renewed_or_retained with hrenewed | hretained
  · refine .inl ⟨hrenewed, fun hretained => ?_⟩
    exact hretained.state_ne hrenewed.state_eq
  · refine .inr ⟨hretained, fun hrenewed => ?_⟩
    exact hretained.state_ne hrenewed.state_eq

end Session

end PrefixDelegation
