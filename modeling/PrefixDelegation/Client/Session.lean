import PrefixDelegation.Client.Config
import PrefixDelegation.Lease

/-!
# Sessions

A session is a client at work: who it is, how it exchanges messages, and what came of it so far.
It keeps the Advertise that was last accepted, since that names the server to ask, and the lease
that was last obtained. The two change at different times: an Advertise is kept as soon as it
arrives, a lease only when the Reply to the Request that followed is there.

* `solicit` sends a Solicit and keeps the Advertise that answers.
* `request` asks the server of an Advertise for what it offered.
* `obtain` does both and keeps the lease. Negotiation errors stop it, are recorded, and leave the
  lease as it was.
* `release` gives back what the kept Advertise offered. Whatever stops it is recorded too, and
  only a reply makes the session forget Advertise and lease.

Every message that is sent takes the next transaction identifier of the sequencer, or keeps the
random one it was built with when there is none left.
-/

namespace PrefixDelegation

/-- What a session is doing, or how its last operation ended. -/
inductive SessionState where
  | idle
  | soliciting
  | requesting
  | bound
  | releasing
  | failed
deriving Repr, DecidableEq

/-- The name of a state. -/
def SessionState.name : SessionState → String
  | .idle => "idle"
  | .soliciting => "soliciting"
  | .requesting => "requesting"
  | .bound => "bound"
  | .releasing => "releasing"
  | .failed => "failed"

/-- A client at work over a transport. -/
structure Session (τ : Type) where
  duid : Octets
  hardwareAddress : Option Octets
  engine : Engine
  sequencer : Sequencer
  random : RandomIds
  state : SessionState
  /-- The Advertise that was last accepted and not yet given back. -/
  advertise : Option Message
  lease : Lease
  /-- What stopped the last operation. -/
  error : Option NegotiationError
  /-- What the last exchange received. -/
  tally : Tally
  transport : τ
  /-- What the session had to say since its journal was last taken. -/
  journal : Journal

namespace Session

variable {τ : Type}

/-- A session that has done nothing yet. -/
def start (c : ClientConfig) (identity : Identity) (random : RandomIds) (transport : τ) :
    Except Misuse (Session τ) := do
  let sequencer ← Sequencer.ofNumbers c.transactionIds
  return {
    duid := identity.duid
    hardwareAddress := identity.hardwareAddress
    engine := c.engine
    sequencer
    random
    state := .idle
    advertise := none
    lease := .empty
    error := none
    tally := .zero
    transport
    journal := [] }

/-- Writes into the journal. -/
def note (s : Session τ) (level : Level) (text : String) : Session τ :=
  { s with journal := s.journal ++ [clientRecord level text] }

/-- Draws the transaction identifier that a new message is built with. -/
def draw (s : Session τ) : TransactionId × Session τ :=
  let (id, random) := s.random.draw
  (id, { s with random })

/-- Gives a message the next transaction identifier, if the sequencer has one left. -/
def stamp (s : Session τ) (m : Message) : Message × Session τ :=
  match s.sequencer.take with
  | (.ok xid, sequencer) => ({ m with xid }, { s with sequencer })
  | (.error _, sequencer) => (m, { s with sequencer := sequencer.markRandom })

/-- Enters a state, sends a message and waits for its reply. -/
def exchange [Transport τ] (s : Session τ) (state : SessionState) (m : Message) :
    Except Fault Message × Session τ :=
  let x := s.engine.exchange m .none s.transport
  (x.outcome, { s with
    state
    tally := x.tally
    transport := x.transport
    journal := s.journal ++ x.journal })

/-- A message that was sent and the one that answered it. -/
structure Round where
  sent : Message
  received : Message
deriving Repr, DecidableEq

/-- What the journal says about a reply. -/
def receivedText (sent received : Message) : String :=
  "Received " ++ received.type.name ++ " for xid=" ++ Text.hexWith 6 sent.xid.val

/-! ### Solicit and Request -/

/-- Asks for a delegation in a message that does not do so yet. -/
def askForDelegation (m : Message) : Message :=
  if m.hasOption Message.delegation then m
  else m.addOption (.delegationRequest Message.associationNumber)

/-- The Solicit that is sent: the given message or a new one, asking for a delegation and
stamped. -/
def prepareSolicit (s : Session τ) (given : Option Message) : Message × Session τ :=
  match given with
  | some m => s.stamp (askForDelegation m)
  | none =>
    let (xid, s) := s.draw
    s.stamp (askForDelegation (.solicit s.duid xid))

/-- Sends a Solicit and keeps the Advertise that answers. -/
def solicit [Transport τ] (s : Session τ) (given : Option Message) :
    Except Fault Round × Session τ :=
  let (sent, s) := s.prepareSolicit given
  match s.exchange .soliciting sent with
  | (.error e, s) => (.error e, s)
  | (.ok received, s) =>
    (.ok ⟨sent, received⟩,
      { s with advertise := some received }.note .info (receivedText sent received))

/-- The message that answers an Advertise: a Request of a type of its own, naming the server and
what it offered, and stamped. -/
def prepareAnswer (s : Session τ) (advertise : Option Message) (type : MessageType) :
    Except NegotiationError Message × Session τ :=
  match advertise, Message.serverOf advertise with
  | some a, .ok server =>
    let (xid, s) := s.draw
    let answer := { Message.request s.duid server xid with type }
    let (m, s) := s.stamp (answer.withOffer a)
    (.ok m, s)
  | _, .error e => (.error (.codec (.advertise e)), s)
  | none, .ok _ => (.error (.codec (.advertise .missing)), s)

/-- Asks the server of an Advertise for what it offered. -/
def request [Transport τ] (s : Session τ) (advertise : Option Message) :
    Except Fault Round × Session τ :=
  match s.prepareAnswer advertise .request with
  | (.error e, s) => (.error (.negotiation e), s)
  | (.ok sent, s) =>
    match s.exchange .requesting sent with
    | (.error e, s) => (.error e, s)
    | (.ok received, s) => (.ok ⟨sent, received⟩, s.note .info (receivedText sent received))

/-! ### Whole operations -/

/-- Records what stopped an operation. An operation that had nothing to work on leaves the state
as it was. -/
def fail (s : Session τ) (e : NegotiationError) : Session τ :=
  let s := s.note .warning ("DHCPv6 " ++ s.state.name ++ " failed: " ++ e.message)
  { s with error := some e, state := if e = .noActiveLease then s.state else .failed }

/-- Solicits and requests. -/
def negotiate [Transport τ] (s : Session τ) : Except Fault Message × Session τ :=
  match s.solicit none with
  | (.error e, s) => (.error e, s)
  | (.ok round, s) =>
    match s.request (some round.received) with
    | (.error e, s) => (.error e, s)
    | (.ok round, s) => (.ok round.received, s)

/-- Keeps the lease that a Reply grants. -/
def bind [Transport τ] (s : Session τ) (reply : Message) : Except Fault Unit × Session τ :=
  match Lease.ofReply reply (Transport.now s.transport) with
  | .error fault => (.error fault, s)
  | .ok lease =>
    (.ok (), { s with lease, state := .bound }.note .info ("Bound: " ++ lease.describe))

/-- Obtains a lease, or renews it. Negotiation errors are recorded and do not stop the caller. -/
def obtain [Transport τ] (s : Session τ) : Except Fault Unit × Session τ :=
  match { s with error := none }.negotiate with
  | (.error (.negotiation e), s) => (.ok (), s.fail e)
  | (.error fault, s) => (.error fault, s)
  | (.ok reply, s) => s.bind reply

/-- Sends a Release for what the kept Advertise offered and waits for the reply. -/
def giveBack [Transport τ] (s : Session τ) : Except Fault Round × Session τ :=
  match s.advertise with
  | none => (.error (.negotiation .noActiveLease), s)
  | some advertise =>
    match s.prepareAnswer (some advertise) .release with
    | (.error e, s) => (.error (.negotiation e), s)
    | (.ok sent, s) =>
      match s.exchange .releasing sent with
      | (.error e, s) => (.error e, s)
      | (.ok received, s) => (.ok ⟨sent, received⟩, s)

/-- Gives the lease back. What stops the operation is recorded and also told to the caller. -/
def release [Transport τ] (s : Session τ) : Except Fault Round × Session τ :=
  match { s with error := none }.giveBack with
  | (.error (.negotiation e), s) => (.error (.negotiation e), s.fail e)
  | (.error fault, s) => (.error fault, s)
  | (.ok round, s) =>
    let s := s.note .info ("Released lease, server answered " ++ round.received.type.name)
    (.ok round, { s with advertise := none, lease := .empty, state := .idle })

/-- Gives the endpoint up. -/
def close [Transport τ] (s : Session τ) : Session τ :=
  { s with transport := Transport.close s.transport }

end Session

end PrefixDelegation
