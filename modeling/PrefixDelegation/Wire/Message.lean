import PrefixDelegation.Wire.MessageType
import PrefixDelegation.Wire.Option

/-!
# Messages

A message is its type, its transaction identifier and its options. A message that was read keeps
the octets behind its last option, so that writing it gives back the octets it was read from.
Those octets also hide what is added later: an option added behind raw octets or padding is
written, but is not among the options of the message. Padding stays at the very end of what is
written.

A message is written when all its options can be; the first that cannot is reported
(`Message.encode`). That shows only when the message is written: until then, an option that is too
long is an option like any other.
-/

namespace PrefixDelegation

open Wire

/-- A message between a client and a server. -/
structure Message where
  type : MessageType
  xid : TransactionId
  /-- The options, in order. -/
  options : List DhcpOption
  /-- What followed the options when the message was read. -/
  tail : Tail
  /-- The options added behind a tail. -/
  hidden : List DhcpOption
deriving Repr, DecidableEq

/-- Why a datagram is no message. -/
inductive DecodeError where
  | tooShort (length : Nat)
  | unknownType (number : Nat)
  | reservedType
  | relayed (type : MessageType)
deriving Repr, DecidableEq

/-- The wording of a decoding error. -/
def DecodeError.message : DecodeError → String
  | .tooShort length => "packet too short: " ++ toString length ++ " bytes"
  | .unknownType number => "unknown message type " ++ toString number
  | .reservedType => "message type 0 is not valid"
  | .relayed type => "relay message " ++ type.name ++ " has no transaction id"

/-- Why a message cannot be written. -/
inductive EncodeError where
  /-- The body of an option has more octets than can be declared. -/
  | optionTooLong (code length : Nat)
deriving Repr, DecidableEq

namespace Message

/-- A message put together from its parts. -/
def compose (type : MessageType) (xid : TransactionId) (options : List DhcpOption) : Message :=
  ⟨type, xid, options, .nothing, []⟩

/-- Reads a datagram. -/
def decode (data : Octets) : Except DecodeError Message :=
  match data with
  | t :: a :: b :: c :: rest =>
    match MessageType.ofNat? t.toNat with
    | none => .error (.unknownType t.toNat)
    | some type =>
      if type = .none then .error .reservedType
      else if type.isRelay then .error (.relayed type)
      else
        let chain := Chain.read rest
        .ok ⟨type, .ofNat (Octets.toNat [a, b, c]), chain.options.map .ofRead, chain.tail, []⟩
  | _ => .error (.tooShort data.length)

/-- The octets of some options. -/
def optionOctets (options : List DhcpOption) : Octets := options.flatMap (·.octets)

/-- The octets of a message, those of its options included. -/
def octets (m : Message) : Octets :=
  UInt8.ofNat m.type.toNat :: Octets.ofNat 3 m.xid.val ++ optionOctets m.options ++
    match m.tail with
    | .nothing => optionOctets m.hidden
    | .raw octets => octets ++ optionOctets m.hidden
    | .padding octets => optionOctets m.hidden ++ octets

/-- The first option of a message that cannot be written. -/
def unwritable? (m : Message) : Option DhcpOption :=
  (m.options ++ m.hidden).find? (!·.isWritable)

/-- Writes a message, if all its options can be written. -/
def encode (m : Message) : Except EncodeError Octets :=
  match m.unwritable? with
  | some o => .error (.optionTooLong o.code o.body.length)
  | none => .ok m.octets

/-- Adds an option behind those a message has. -/
def addOption (m : Message) (o : DhcpOption) : Message :=
  match m.tail with
  | .nothing => { m with options := m.options ++ [o] }
  | _ => { m with hidden := m.hidden ++ [o] }

/-- The first option of a kind. -/
def firstOption? (m : Message) (kind : OptionKind) : Option DhcpOption :=
  m.options.find? (·.isA kind)

/-- Whether a message has an option of a kind. -/
def hasOption (m : Message) (kind : OptionKind) : Bool := m.options.any (·.isA kind)

/-- The kind of the options that carry a delegation. -/
def delegation : OptionKind := .withCode 25

/-- The identifier in the first option with a code: none if there is no such option, and the inner
none if that option carries no identifier. -/
def identifierIn? (m : Message) (code : Nat) : Option (Option Octets) :=
  (m.firstOption? (.withCode code)).map (·.identifier?)

/-- The identifier of the client. -/
def clientId? (m : Message) : Option (Option Octets) := m.identifierIn? 1

/-- The identifier of the server. -/
def serverId? (m : Message) : Option (Option Octets) := m.identifierIn? 2

/-- The associations of a message, in order. -/
def associations (m : Message) : Except Address.NetworkError (List Association) :=
  (m.options.filter (·.isA delegation)).mapM (·.association)

/-- The addresses of name servers, in order. -/
def nameServers (m : Message) : List String :=
  (m.options.filter (·.isA (.withCode 23))).flatMap fun o => o.addresses.map Address.ipv6Text

/-- A short description of a message. -/
def describe (m : Message) : String :=
  "Message(" ++ m.type.name ++ ", xid=" ++ Text.hexWith 6 m.xid.val ++ ")"

/-! ### Messages of a client -/

/-- The association number under which this client asks for a delegation. -/
def associationNumber : UInt32 := 1

/-- A Solicit with the client's identifier. -/
def solicit (duid : Octets) (xid : TransactionId) : Message :=
  compose .solicit xid [.clientId duid, .elapsedTime, .optionRequest]

end Message

/-- Why an Advertise cannot be answered by a Request. -/
inductive AdvertiseError where
  | missing
  | wrongType (type : MessageType)
  | noServer
deriving Repr, DecidableEq

/-- The wording of an error with an Advertise. -/
def AdvertiseError.message : AdvertiseError → String
  | .missing => "ADVERTISE cannot be None"
  | .wrongType type => "expected an ADVERTISE message, got " ++ type.name
  | .noServer => "server ID cannot be missing in ADVERTISE"

namespace Message

/-- The identifier of the server that a Request has to name, taken from the Advertise that it
answers. -/
def serverOf (advertise : Option Message) : Except AdvertiseError DhcpOption :=
  match advertise with
  | none => .error .missing
  | some m =>
    if m.type ≠ .advertise then .error (.wrongType m.type)
    else match m.firstOption? .serverId with
      | none => .error .noServer
      | some o => .ok o

/-- A Request to a server with the client's identifier. -/
def request (duid : Octets) (server : DhcpOption) (xid : TransactionId) : Message :=
  compose .request xid [.clientId duid, server, .elapsedTime, .optionRequest]

/-- A message that asks in addition for what the Advertise offered. -/
def withOffer (m : Message) (advertise : Message) : Message :=
  match advertise.firstOption? delegation with
  | none => m
  | some o => m.addOption o

end Message

end PrefixDelegation
