import PrefixDelegation.Journal
import PrefixDelegation.Transport.Basic

/-!
# Exchanges

An exchange sends one message and waits for the reply that belongs to it. Whatever else arrives is
passed over: datagrams that are no messages, messages of other transactions, and messages of
another type than the one that answers. The *first* datagram that is none of these is the reply.

The wait ends without a reply when the transport fails or lets the deadline pass, or when as many
datagrams were received as the exchange may look at. The deadline is fixed once, when the message
has been sent. A message that cannot be written is not sent, and ends the exchange before the
transport is asked for anything.

`judge` decides about one datagram and knows nothing of the others; `listen` goes through the
datagrams until one is accepted, and counts what it passed over.
-/

namespace PrefixDelegation

/-- The largest datagram that is received whole, unless another size is given. -/
def defaultMaxSize : Int := 8192

/-- The seconds to wait for sending or receiving, unless other times are given. -/
def defaultTimeout : Seconds := .real 3.0

/-- How exchanges are carried out. -/
structure Engine where
  remote : SocketAddress
  readTimeout : Seconds
  writeTimeout : Seconds
  maxSize : Int
  /-- The most datagrams that one exchange looks at, if there is a limit. -/
  limit : Option Int

/-- What an exchange received. -/
structure Tally where
  received : Nat
  /-- Datagrams that are no messages. -/
  undecodable : Nat
  /-- Messages of other transactions. -/
  foreign : Nat
  /-- Messages of a type that does not answer. -/
  unexpected : Nat
deriving Repr, DecidableEq

namespace Tally

/-- The tally of an exchange that has received nothing. -/
def zero : Tally := ⟨0, 0, 0, 0⟩

/-- How many datagrams were passed over. -/
def skipped (t : Tally) : Nat := t.undecodable + t.foreign + t.unexpected

end Tally

/-! ### One datagram -/

/-- What a datagram is to an exchange. -/
inductive Verdict where
  | accepted (reply : Message)
  | undecodable (e : DecodeError)
  | foreign (xid : TransactionId)
  | unexpected (type : MessageType)
deriving Repr, DecidableEq

/-- Decides about a datagram. The type `none` stands for any type. -/
def judge (xid : TransactionId) (expected : MessageType) (data : Octets) : Verdict :=
  match Message.decode data with
  | .error e => .undecodable e
  | .ok m =>
    if m.xid ≠ xid then .foreign m.xid
    else if expected = .none ∨ m.type = expected then .accepted m
    else .unexpected m.type

/-- Counts a datagram that was received. -/
def Tally.count (t : Tally) (v : Verdict) : Tally :=
  let t := { t with received := t.received + 1 }
  match v with
  | .accepted _ => t
  | .undecodable _ => { t with undecodable := t.undecodable + 1 }
  | .foreign _ => { t with foreign := t.foreign + 1 }
  | .unexpected _ => { t with unexpected := t.unexpected + 1 }

/-- What the journal says about a datagram, given the tally that includes it. -/
def Verdict.describe (v : Verdict) (xid : TransactionId) (expected : MessageType)
    (tally : Tally) : String :=
  match v with
  | .accepted m => "Accepted " ++ m.type.name ++ " xid=" ++ Text.hexWith 6 xid.val ++ " after "
      ++ toString tally.skipped ++ " skipped datagram(s)"
  | .undecodable e => "non-DHCP: " ++ e.message
  | .foreign other => "different XID: got " ++ Text.hexWith 6 other.val ++ ", want "
      ++ Text.hexWith 6 xid.val
  | .unexpected type => "Skipping " ++ type.name ++ " xid=" ++ Text.hexWith 6 xid.val
      ++ ", waiting for " ++ expected.name

/-! ### The wait for the reply -/

/-- The end of an exchange. -/
structure Exchanged (τ : Type) where
  outcome : Except Fault Message
  tally : Tally
  transport : τ
  journal : Journal

/-- An entry of the journal of exchanges. -/
def exchangeRecord (text : String) : Record := ⟨.exchange, .debug, text⟩

/-- Puts an entry before those of an exchange. -/
def Exchanged.after {τ : Type} (record : Record) (x : Exchanged τ) : Exchanged τ :=
  { x with journal := record :: x.journal }

/-- The limit of an exchange, if it is reached. -/
def Engine.limitReached? (e : Engine) (tally : Tally) : Option Int :=
  e.limit.filter fun limit => limit ≤ tally.received

/-- Receives until a datagram is accepted. -/
def Engine.listen {τ : Type} [Transport τ] (e : Engine) (xid : TransactionId)
    (expected : MessageType) (deadline : Float) (tally : Tally) (t : τ) : Exchanged τ :=
  match e.limitReached? tally with
  | some limit => ⟨.error (.negotiation (.timeout (.datagramLimit xid limit))), tally, t, []⟩
  | none =>
    match _h : Transport.receive t e.maxSize deadline with
    | (.error fault, t') => ⟨.error fault, tally, t', []⟩
    | (.ok data, t') =>
      let verdict := judge xid expected data
      let tally := tally.count verdict
      let record := exchangeRecord (verdict.describe xid expected tally)
      match verdict with
      | .accepted m => ⟨.ok m, tally, t', [record]⟩
      | _ => (e.listen xid expected deadline tally t').after record
termination_by Transport.pending t
decreasing_by exact Transport.pending_receive_lt _ _ _ _ _ (by assumption)

/-- The type that answers a message, given the type that was asked for; `none` asks for the type
with which servers answer. -/
def replyType (outbound : Message) (asked : MessageType) : MessageType :=
  if asked = .none then outbound.type.expectedReply else asked

/-- Sends a message and waits for its reply. -/
def Engine.exchange {τ : Type} [Transport τ] (e : Engine) (outbound : Message)
    (asked : MessageType) (t : τ) : Exchanged τ :=
  let sending := exchangeRecord ("Sending " ++ outbound.type.name ++ " xid="
    ++ Text.hexWith 6 outbound.xid.val ++ " to " ++ e.remote.host)
  match outbound.encode with
  | .error err => ⟨.error (.unwritable err), .zero, t, [sending]⟩
  | .ok data =>
    match Transport.send t data e.remote e.writeTimeout with
    | (.error fault, t') => ⟨.error fault, .zero, t', [sending]⟩
    | (.ok (), t') =>
      match e.readTimeout.toFloat? with
      | none => ⟨.error .beyondDoubles, .zero, t', [sending]⟩
      | some wait =>
        (e.listen outbound.xid (replyType outbound asked) (Transport.clock t' + wait) .zero
          t').after sending

end PrefixDelegation
