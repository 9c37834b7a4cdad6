import PrefixDelegation.Client.Session
import PrefixDelegation.Transport.Script

/-!
# Runs of a session

A run is a sequence of calls on one session, over any transport. Between two calls the world goes
on: what the transport will deliver and how it will fail may change, time may pass, and the journal
may be taken away. `Reached` says which sessions a run can come to, together with what was
*accepted* on the way: the messages that its exchanges returned, in order.

A call returns or is stopped by a fault, and the session goes on from where the call left it in
either case (`Session.after`).
-/

namespace PrefixDelegation

/-- The calls that a session takes. -/
inductive Call where
  | solicit (given : Option Message)
  | request (advertise : Option Message)
  | obtain
  | release

/-- A Solicit that is handed over is of that type. -/
def Call.IsProper : Call → Prop
  | .solicit (some m) => m.type = .solicit
  | _ => True

/-- The message received in a round, if there was one. -/
def receivedIn : Except Fault Session.Round → List Message
  | .ok round => [round.received]
  | .error _ => []

namespace Session

variable {τ : Type} [Transport τ]

omit [Transport τ] in
/-- A session starts with the identifiers that are configured, idle, and with nothing to show. -/
theorem start_eq {c : ClientConfig} {identity : Identity} {random : RandomIds} {transport : τ}
    {s : Session τ} (h : start c identity random transport = .ok s) :
    ∃ sequencer, Sequencer.ofNumbers c.transactionIds = .ok sequencer ∧
      s = ⟨identity.duid, identity.hardwareAddress, c.engine, sequencer, random, .idle, none, .empty,
        none, .zero, transport, []⟩ := by
  unfold start at h
  cases hq : Sequencer.ofNumbers c.transactionIds with
  | error e =>
    rw [hq] at h
    cases h
  | ok sequencer =>
    rw [hq] at h
    cases h
    exact ⟨sequencer, rfl, rfl⟩

/-- The session after a call, whether the call returned or not. -/
def after (s : Session τ) : Call → Session τ
  | .solicit given => (s.solicit given).2
  | .request advertise => (s.request advertise).2
  | .obtain => s.obtain.2
  | .release => s.release.2

/-- The messages that the exchanges of a call accepted, in order. -/
def accepted (s : Session τ) : Call → List Message
  | .solicit given => receivedIn (s.solicit given).1
  | .request advertise => receivedIn (s.request advertise).1
  | .obtain =>
    match { s with error := none }.solicit none with
    | (.error _, _) => []
    | (.ok round, s) => round.received :: receivedIn (s.request (some round.received)).1
  | .release => receivedIn { s with error := none }.giveBack.1

/-- **Runs.** `Reached s₀ s heard` says that a run from `s₀` can come to `s`, having accepted the
messages `heard` on the way. -/
inductive Reached (s₀ : Session τ) : Session τ → List Message → Prop
  /-- Nothing was called yet. -/
  | start : Reached s₀ s₀ []
  /-- A call is made. -/
  | call {s : Session τ} {heard : List Message} (c : Call) (proper : c.IsProper)
      (before : Reached s₀ s heard) : Reached s₀ (s.after c) (heard ++ s.accepted c)
  /-- The world goes on, and the journal may be taken away. -/
  | meanwhile {s : Session τ} {heard : List Message} (transport : τ) (journal : Journal)
      (before : Reached s₀ s heard) : Reached s₀ { s with transport, journal } heard

/-! ### The courses of the operations

Each operation is one of a few courses of smaller ones. What follows says what comes of each course,
and nothing else unfolds the operations. -/

variable {s s₁ s₂ : Session τ} {round : Round} {fault : Fault}

/-- A Solicit that gets no reply. -/
theorem solicit_of_error {given : Option Message} {sent : Message}
    (hp : s.prepareSolicit given = (sent, s₁))
    (hx : s₁.exchange .soliciting sent = (.error fault, s₂)) :
    s.solicit given = (.error fault, s₂) := by
  rw [solicit, hp]
  simp only [hx]

/-- A Solicit that is answered: the reply is kept. -/
theorem solicit_of_reply {given : Option Message} {sent received : Message}
    (hp : s.prepareSolicit given = (sent, s₁))
    (hx : s₁.exchange .soliciting sent = (.ok received, s₂)) :
    s.solicit given = (.ok ⟨sent, received⟩,
      { s₂ with advertise := some received }.note .info (receivedText sent received)) := by
  rw [solicit, hp]
  simp only [hx]

section Answer

variable {advertise : Option Message}

/-- A Request that cannot be built. -/
theorem request_of_unanswerable {e : NegotiationError}
    (hp : s.prepareAnswer advertise .request = (.error e, s₁)) :
    s.request advertise = (.error (.negotiation e), s₁) := by
  rw [request, hp]

/-- A Request that gets no reply. -/
theorem request_of_error {sent : Message}
    (hp : s.prepareAnswer advertise .request = (.ok sent, s₁))
    (hx : s₁.exchange .requesting sent = (.error fault, s₂)) :
    s.request advertise = (.error fault, s₂) := by
  rw [request, hp]
  simp only [hx]

/-- A Request that is answered. -/
theorem request_of_reply {sent received : Message}
    (hp : s.prepareAnswer advertise .request = (.ok sent, s₁))
    (hx : s₁.exchange .requesting sent = (.ok received, s₂)) :
    s.request advertise =
      (.ok ⟨sent, received⟩, s₂.note .info (receivedText sent received)) := by
  rw [request, hp]
  simp only [hx]

end Answer

section GiveBack

/-- There is nothing to give back. -/
theorem giveBack_of_none (h : s.advertise = none) :
    s.giveBack = (.error (.negotiation .noActiveLease), s) := by
  rw [giveBack, h]

variable {advertise : Message} (h : s.advertise = some advertise)
include h

/-- A Release that cannot be built. -/
theorem giveBack_of_unanswerable {e : NegotiationError}
    (hp : s.prepareAnswer (some advertise) .release = (.error e, s₁)) :
    s.giveBack = (.error (.negotiation e), s₁) := by
  rw [giveBack, h]
  simp only [hp]

/-- A Release that is sent, whether there is a reply or not. -/
theorem giveBack_of_sent {sent : Message}
    (hp : s.prepareAnswer (some advertise) .release = (.ok sent, s₁)) :
    s.giveBack = ((s₁.exchange .releasing sent).1.map fun received => ⟨sent, received⟩,
      (s₁.exchange .releasing sent).2) := by
  rw [giveBack, h]
  simp only [hp]
  rcases s₁.exchange .releasing sent with ⟨fault | received, s₂⟩
  · rfl
  · rfl

end GiveBack

omit [Transport τ] in
/-- What an operation comes to that a fault stops: a negotiation error is recorded, and any other
fault leaves the session where it was. -/
def stoppedBy (s : Session τ) : Fault → Except Fault Unit × Session τ
  | .negotiation e => (.ok (), s.fail e)
  | fault => (.error fault, s)

omit [Transport τ] in
/-- Recording an error fails the session, unless there was nothing to work on. -/
theorem fail_state (s : Session τ) {e : NegotiationError} (h : e ≠ .noActiveLease) :
    (s.fail e).state = .failed :=
  if_neg h

/-- The Solicit is stopped, and so is the negotiation. -/
theorem negotiate_of_solicit_error (h : s.solicit none = (.error fault, s₁)) :
    s.negotiate = (.error fault, s₁) := by
  rw [negotiate, h]

/-- The Request is stopped, and so is the negotiation. -/
theorem negotiate_of_request_error (h : s.solicit none = (.ok round, s₁))
    (h' : s₁.request (some round.received) = (.error fault, s₂)) :
    s.negotiate = (.error fault, s₂) := by
  rw [negotiate, h]
  simp only [h']

/-- Both are answered, and the negotiation comes to the Reply. -/
theorem negotiate_of_reply {round' : Round} (h : s.solicit none = (.ok round, s₁))
    (h' : s₁.request (some round.received) = (.ok round', s₂)) :
    s.negotiate = (.ok round'.received, s₂) := by
  rw [negotiate, h]
  simp only [h']

section Bind

variable {reply : Message}

/-- A Reply that grants a lease binds the session. -/
theorem bind_of_lease {lease : Lease}
    (h : Lease.ofReply reply (Transport.now s.transport) = .ok lease) :
    ∃ journal, s.bind reply = (.ok (), { s with lease, state := .bound, journal }) := by
  rw [bind, h]
  exact ⟨_, rfl⟩

/-- A Reply that grants none moves nothing, and the fault is passed on. -/
theorem bind_of_fault (h : Lease.ofReply reply (Transport.now s.transport) = .error fault) :
    s.bind reply = (.error fault, s) := by
  rw [bind, h]

end Bind

/-- The negotiation is stopped, and so is the operation. -/
theorem obtain_of_error
    (h : { s with error := none }.negotiate = (.error fault, s₁)) :
    s.obtain = s₁.stoppedBy fault := by
  rw [obtain, h]
  cases fault <;> rfl

/-- The negotiation comes to a Reply, and the operation goes on to its lease. -/
theorem obtain_of_reply {reply : Message}
    (h : { s with error := none }.negotiate = (.ok reply, s₁)) : s.obtain = s₁.bind reply := by
  rw [obtain, h]

/-- A lease that was obtained is the one that a Reply grants. -/
theorem obtain_granted {s' : Session τ} (h : s.obtain = (.ok (), s')) (herror : s'.error = none) :
    ∃ reply, { s with error := none }.negotiate.1 = .ok reply ∧
      Lease.ofReply reply (Transport.now s'.transport) = .ok s'.lease := by
  rcases hn : { s with error := none }.negotiate with ⟨fault | reply, s₁⟩
  · rw [obtain_of_error hn] at h
    cases fault with
    | negotiation e =>
      -- the error was recorded
      cases h
      cases herror
    | _ => cases h
  · rw [obtain_of_reply hn] at h
    rcases hl : Lease.ofReply reply (Transport.now s₁.transport) with fault | lease
    · rw [bind_of_fault hl] at h
      cases h
    · obtain ⟨journal, hbind⟩ := bind_of_lease hl
      rw [hbind] at h
      cases h
      exact ⟨reply, by rw [hn], hl⟩

/-- Giving back is stopped, and so is the operation. -/
theorem release_of_error
    (h : { s with error := none }.giveBack = (.error fault, s₁)) :
    s.release = (.error fault, (s₁.stoppedBy fault).2) := by
  unfold release
  rw [h]
  cases fault <;> rfl

/-- The Release is answered, and the session forgets Advertise and lease. -/
theorem release_of_reply (h : { s with error := none }.giveBack = (.ok round, s₁)) :
    ∃ journal, s.release = (.ok round,
      { s₁ with advertise := none, lease := .empty, state := .idle, journal }) := by
  unfold release
  rw [h]
  exact ⟨_, rfl⟩

end Session

/-! ### A small negotiation -/

/-- A script that delivers what it is given and refuses no send. -/
def Script.playing (deliveries : List Delivery) : Script :=
  ⟨0, Calendar.Moment.origin, deliveries, [], []⟩

/-- An Advertise with a server identifier and nothing else. -/
def smallAdvertise (xid : UInt8) : Octets := [2, 0, 0, xid, 0, 2, 0, 4, 0, 3, 0, 1]

/-- A Reply that delegates one network of the given length. -/
def smallReply (xid length : UInt8) : Octets :=
  [7, 0, 0, xid, 0, 25, 0, 41, 0, 0, 0, 1, 0, 0, 14, 16, 0, 0, 28, 32,
    0, 26, 0, 25, 0, 0, 14, 16, 0, 0, 28, 32, length, 32, 1, 13, 184, 0, 0, 0, 0, 0, 0, 0, 0, 0, 0,
    0, 0]

/-- A session at its start that has a transaction identifier for each half of a negotiation. -/
def smallSession (deliveries : List Delivery) : Session Script where
  duid := [0, 3, 0, 1]
  hardwareAddress := none
  engine := ({ transactionIds := [0x11, 0x22] } : ClientConfig).engine
  sequencer := ⟨[.ofNat 0x11, .ofNat 0x22], none⟩
  random := []
  state := .idle
  advertise := none
  lease := .empty
  error := none
  tally := .zero
  transport := Script.playing deliveries
  journal := []

/-- A small session is one that a client starts with. -/
theorem start_small (deliveries : List Delivery) :
    Session.start { transactionIds := [0x11, 0x22] } ⟨none, [0, 3, 0, 1], []⟩ []
      (Script.playing deliveries) = .ok (smallSession deliveries) :=
  rfl

/-- A session whose server will delegate one network of the given length. -/
def smallNegotiation (length : UInt8) : Session Script :=
  smallSession [.datagram (smallAdvertise 0x11), .datagram (smallReply 0x22 length)]

end PrefixDelegation
