import PrefixDelegation.Exchange
import PrefixDelegation.Machine
import PrefixDelegation.Sequencer

/-!
# The configuration of a client

A client can be given its identity and its addresses, or find them out from the machine. The
identity is settled first: the hardware address is the given one, or that of the interface, if
there is either; the identifier is the given one, or is made from the hardware address and the
time. The local address is the given one, or the link-local address of the interface together
with the number of the interface.
-/

namespace PrefixDelegation

open Text (nonempty?)

/-- Octets given as they are, or as text that has to be read. -/
inductive Given where
  | text (s : String)
  | octets (bs : Octets)
deriving Repr, DecidableEq

/-- The identifier that was given. -/
def Given.readDuid (g : Given) : Except CodecCause Octets :=
  match g with
  | .text s => (Duid.read s).mapError .duid
  | .octets bs => (Duid.check bs).mapError .duid

/-- The hardware address that was given; octets are taken unchecked. -/
def Given.readHardwareAddress (g : Given) : Except CodecCause Octets :=
  match g with
  | .text s => (HardwareAddress.read s).mapError .hardwareAddress
  | .octets bs => .ok bs

/-- The configuration of a client. -/
structure ClientConfig where
  interface : Option String := none
  localAddress : Option SocketAddress := none
  remoteAddress : Option SocketAddress := none
  duid : Option Given := none
  hardwareAddress : Option Given := none
  readTimeout : Seconds := defaultTimeout
  writeTimeout : Seconds := defaultTimeout
  transactionIds : List Int := []

/-- An entry of the journal of clients. -/
def clientRecord (level : Level) (text : String) : Record := ⟨.client, level, text⟩

/-- Who a client is. -/
structure Identity where
  hardwareAddress : Option Octets
  duid : Octets
  journal : Journal

/-- Whole seconds from the epoch of clocks to a moment: the seconds as a double, rounded toward the
epoch. -/
def epochSeconds (now : Calendar.Moment) : Int :=
  let offset := (now.offset.map (·.micros)).getD 0
  let seconds := Calendar.microsToSeconds (now.reading - offset - Calendar.Moment.epoch)
  (Decimal.truncate? seconds).getD 0

namespace ClientConfig

/-- The hardware address of a client, if it has one. -/
def resolveHardwareAddress (c : ClientConfig) (m : Machine) :
    Except NegotiationError (Option Octets) :=
  match c.hardwareAddress with
  | some given => (given.readHardwareAddress.mapError .codec).map some
  | none =>
    match nonempty? c.interface with
    | some name => (m.hardwareAddress name).map some
    | none => .ok none

/-- The identifier of a client with a hardware address, and what the journal says about it. -/
def resolveDuid (c : ClientConfig) (hardwareAddress : Option Octets) (now : Calendar.Moment) :
    Except Fault (Octets × Record) :=
  match c.duid with
  | some given => do
    let duid ← given.readDuid.mapError fun e => .negotiation (.codec e)
    return (duid, clientRecord .debug ("Using configured DUID " ++ Duid.write duid))
  | none =>
    match hardwareAddress with
    | none => .error (.misuse .noIdentity)
    | some address =>
      let duid := Duid.linkLayerTime address (epochSeconds now)
      .ok (duid, clientRecord .debug ("Generated DUID-LLT " ++ Duid.write duid))

/-- The identity of a client. -/
def resolveIdentity (c : ClientConfig) (m : Machine) (now : Calendar.Moment) :
    Except Fault Identity := do
  let hardwareAddress ← (c.resolveHardwareAddress m).mapError .negotiation
  let (duid, record) ← c.resolveDuid hardwareAddress now
  return ⟨hardwareAddress, duid, [record]⟩

/-- The address that a client sends from. -/
def resolveLocalAddress (c : ClientConfig) (m : Machine) : Except Fault SocketAddress :=
  match c.localAddress with
  | some address => .ok address
  | none =>
    match nonempty? c.interface with
    | none => .error (.misuse .noInterface)
    | some name => do
      let index ← (m.interfaceIndex name).mapError .negotiation
      let host ← m.linkLocalAddress name
      return ⟨host, [SocketAddress.clientPort, 0, index]⟩

/-- How a client carries out its exchanges. -/
def engine (c : ClientConfig) : Engine where
  remote := c.remoteAddress.getD SocketAddress.allServers
  readTimeout := c.readTimeout
  writeTimeout := c.writeTimeout
  maxSize := defaultMaxSize
  limit := none

end ClientConfig

end PrefixDelegation
