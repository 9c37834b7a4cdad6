import PrefixDelegation.Address.Network
import PrefixDelegation.Wire.Chain

/-!
# Options

An option is the octets it took when it was read, or those it was composed of. Everything else
about it is a view of these octets: its code, the identifier it carries, the addresses it lists,
the delegation it describes.

What was read can always be written again. What is composed can be written if its length can be
declared, which takes a body of at most 65535 octets (`DhcpOption.isWritable`).

An identifier option that declares no octets carries no identifier if it was read, and the empty
identifier if it was composed here.
-/

namespace PrefixDelegation.Wire

open Address

/-- An option of a message. -/
structure DhcpOption where
  octets : Octets
  /-- Whether the option was put together here rather than read. -/
  composed : Bool
deriving Repr, DecidableEq

/-- The kinds of options that are looked for by name. -/
inductive OptionKind where
  /-- Identifiers of either side. -/
  | identifier
  | serverId
  | withCode (code : Nat)
  /-- Options whose code says nothing about how they are laid out. -/
  | unknown
deriving Repr, DecidableEq

namespace DhcpOption

/-- The code of an option. -/
def code (o : DhcpOption) : Nat := codeOf o.octets

/-- Whether an option is of a kind. -/
def isA (o : DhcpOption) : OptionKind → Bool
  | .identifier => o.code == 1 || o.code == 2
  | .serverId => o.code == 2
  | .withCode code => o.code == code
  | .unknown => !isListable o.code

/-- An option as it is read. -/
def ofRead (octets : Octets) : DhcpOption := ⟨octets, false⟩

/-- The octets of an option behind its code and declared length. -/
def body (o : DhcpOption) : Octets := o.octets.drop 4

/-- Composes an option from its code and body. -/
def compose (code : UInt16) (body : Octets) : DhcpOption :=
  ⟨Octets.ofNat 2 code.toNat ++ Octets.ofNat 2 body.length ++ body, true⟩

/-- Whether an option can be written. Two octets declare the length of a body, so a longer one that
was put together here cannot; what was read is written as it was. -/
def isWritable (o : DhcpOption) : Bool := !o.composed || o.body.length < 0x10000

/-- The identifier of the client that sends a message. -/
def clientId (duid : Octets) : DhcpOption := compose 1 duid

/-- The time since the exchange began, which is always its start. -/
def elapsedTime : DhcpOption := compose 8 [0, 0]

/-- The request for the addresses of name servers and the domains to search. -/
def optionRequest : DhcpOption := compose 6 [0, 23, 0, 24]

/-- A request for a delegation under an association number; server and timers are left open. -/
def delegationRequest (iaid : UInt32) : DhcpOption :=
  compose 25 (Octets.ofNat 4 iaid.toNat ++ Octets.ofNat 4 0 ++ Octets.ofNat 4 0)

/-- The identifier in an option, or none if it was read and declares no octets. -/
def identifier? (o : DhcpOption) : Option Octets :=
  if declaredOf o.octets = 0 ∧ !o.composed then none else some o.body

/-- Splits octets into addresses of sixteen octets. -/
def splitAddresses : (count : Nat) → Octets → List Octets
  | 0, _ => []
  | count + 1, bs => bs.take 16 :: splitAddresses count (bs.drop 16)

/-- The addresses in an option that lists them. -/
def addresses (o : DhcpOption) : List Octets := splitAddresses (o.body.length / 16) o.body

/-- The number in four octets at a place in an option. -/
def field (octets : Octets) (start : Nat) : Nat := Octets.toNat ((octets.drop start).take 4)

end DhcpOption

/-! ### Delegations -/

/-- A network delegated to the client, with its lifetimes in seconds. -/
structure DelegatedNetwork where
  network : Network
  preferred : Nat
  valid : Nat
deriving Repr, DecidableEq

/-- The delegation that one association carries, with its timers in seconds. -/
structure Association where
  iaid : Nat
  renewAfter : Nat
  rebindAfter : Nat
  networks : List DelegatedNetwork
deriving Repr, DecidableEq

/-- The delegated network that a list element describes. A network of more than 128 bits is none,
and is reported by its text. -/
def DelegatedNetwork.ofOctets (octets : Octets) : Except NetworkError DelegatedNetwork :=
  let address := Octets.toNat ((octets.drop 13).take 16)
  let length := Octets.toNat ((octets.drop 12).take 1)
  match Network.make? .ipv6 address length with
  | some network => .ok ⟨network, DhcpOption.field octets 4, DhcpOption.field octets 8⟩
  | none => .error (.invalid (writeIpv6 address ++ "/" ++ toString length))

/-- The delegated networks among the elements of a list. -/
def delegatedNetworks : List Element → Except NetworkError (List DelegatedNetwork)
  | [] => .ok []
  | .option octets :: rest =>
    if codeOf octets = 26 then do
      let network ← DelegatedNetwork.ofOctets octets
      let networks ← delegatedNetworks rest
      return network :: networks
    else delegatedNetworks rest
  | .raw _ :: rest => delegatedNetworks rest

/-- The delegation in an option that carries one. -/
def DhcpOption.association (o : DhcpOption) : Except NetworkError Association := do
  let networks ← delegatedNetworks (elements true (o.octets.drop 16))
  return ⟨field o.octets 4, field o.octets 8, field o.octets 12, networks⟩

end PrefixDelegation.Wire
