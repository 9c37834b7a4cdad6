import PrefixDelegation.Address.Network
import PrefixDelegation.Calendar.IsoText
import PrefixDelegation.Console.Markup
import PrefixDelegation.Identity.Duid
import PrefixDelegation.Identity.HardwareAddress
import PrefixDelegation.Json.Reader
import PrefixDelegation.Seconds
import PrefixDelegation.Wire.Message

/-!
# What can go wrong

Failures of a negotiation are expected, since networks lose datagrams and servers answer nonsense.
They are the *negotiation errors*: a client records them and can try again. Everything else that
can stop an operation is a *fault*: a wrong argument, an unreadable file, a refusal of the
operating system, a number out of the range of the calendar.

Both are causes, from which `message` makes the wording.
-/

namespace PrefixDelegation

/-- A refusal of the operating system: its number, if it has one, and its text. -/
structure OsError where
  number : Option Nat
  text : String
deriving Repr, DecidableEq

namespace OsError

/-- Nothing is there. -/
def notFound : OsError := ⟨some 2, "No such file or directory"⟩

/-- Something in use would have to make room. -/
def busy : OsError := ⟨some 16, "Device or resource busy"⟩

/-- There is no room for something new. -/
def alreadyThere : OsError := ⟨some 17, "File exists"⟩

/-- There is no such interface. -/
def noDevice : OsError := ⟨some 19, "No such device"⟩

/-- A file stands where a directory is needed. -/
def notDirectory : OsError := ⟨some 20, "Not a directory"⟩

/-- A directory stands where a file is needed. -/
def isDirectory : OsError := ⟨some 21, "Is a directory"⟩

/-- A name or a path is longer than any can be. -/
def nameTooLong : OsError := ⟨some 36, "File name too long"⟩

/-- The wording of a refusal. -/
def message (e : OsError) : String :=
  match e.number with
  | some n => "[Errno " ++ toString n ++ "] " ++ e.text
  | none => e.text

/-- Whether the operation was not permitted. -/
def isPermission (e : OsError) : Bool := e.number == some 1 || e.number == some 13

/-- Whether the operation took too long. -/
def isTimeout (e : OsError) : Bool := e.number == some 110

end OsError

/-- Why no matching reply came in time. -/
inductive TimeoutCause where
  | deadline
  | datagramLimit (xid : TransactionId) (limit : Int)
  | reported (text : String)
deriving Repr, DecidableEq

/-- Why a datagram could not be sent or received, or an endpoint not be set up. -/
inductive TransportCause where
  | writeTimeout (host : String)
  | writeFailed (host : String) (cause : OsError)
  | readFailed (cause : OsError)
  | noInterface (name : String)
  | noHardwareAddress (name : String) (cause : OsError)
  | noAddressTable (cause : OsError)
  | noLinkLocal (name : String)
  | reported (text : String)
deriving Repr, DecidableEq

/-- Why something could not be read or built. -/
inductive CodecCause where
  | datagram (e : DecodeError)
  | duid (e : DuidError)
  | hardwareAddress (e : HardwareAddressError)
  | advertise (e : AdvertiseError)
deriving Repr, DecidableEq

/-- The failures of a negotiation. -/
inductive NegotiationError where
  | timeout (cause : TimeoutCause)
  | transport (cause : TransportCause)
  | codec (cause : CodecCause)
  | noActiveLease
  | idsExhausted
deriving Repr, DecidableEq

/-- The wording of a timeout. -/
def TimeoutCause.message : TimeoutCause → String
  | .deadline => "read deadline exceeded"
  | .datagramLimit xid limit =>
    "no matching reply for xid=" ++ Text.hexWith 6 xid.val ++ " within " ++ toString limit
      ++ " datagrams"
  | .reported text => text

/-- The wording of a transport failure. -/
def TransportCause.message : TransportCause → String
  | .writeTimeout host => "write to " ++ host ++ " timed out"
  | .writeFailed host cause => "write to " ++ host ++ " failed: " ++ cause.message
  | .readFailed cause => "read failed: " ++ cause.message
  | .noInterface name => "no such interface: " ++ name
  | .noHardwareAddress name cause =>
    "could not get hardware address of " ++ name ++ ": " ++ cause.message
  | .noAddressTable cause => "could not read /proc/net/if_inet6: " ++ cause.message
  | .noLinkLocal name => "no link-local address on " ++ name
  | .reported text => text

/-- The wording of a failure to read or build. -/
def CodecCause.message : CodecCause → String
  | .datagram e => e.message
  | .duid e => e.message
  | .hardwareAddress e => e.message
  | .advertise e => e.message

/-- The wording of a negotiation error. -/
def NegotiationError.message : NegotiationError → String
  | .timeout cause => cause.message
  | .transport cause => cause.message
  | .codec cause => cause.message
  | .noActiveLease => "no lease to release"
  | .idsExhausted => "no deterministic transaction ids left"

/-- Arguments that no operation can work with. -/
inductive Misuse where
  | idOutOfRange (id : Int)
  | nothingToSend
  | noIdentity
  | noInterface
  | unknownLevel (name : String)
  | notANumber (setting value : String)
deriving Repr, DecidableEq

/-- The wording of a misuse. -/
def Misuse.message : Misuse → String
  | .idOutOfRange id => "transaction id out of range: " ++ Text.hexInt id
  | .nothingToSend => "message to send cannot be None"
  | .noIdentity => "either a DUID, a hardware address or an interface is required"
  | .noInterface => "an interface is required to pick the local address"
  | .unknownLevel name => "Unknown log level: " ++ name
  | .notANumber setting value => setting ++ " must be a number, got " ++ Text.quoted value

/-- Gives a message a transaction identifier, if the number is one. -/
def Message.setXid (m : Message) (id : Int) : Except Misuse Message :=
  match TransactionId.ofInt? id with
  | some xid => .ok { m with xid }
  | none => .error (.idOutOfRange id)

/-- Everything that can stop an operation. -/
inductive Fault where
  | negotiation (e : NegotiationError)
  | misuse (e : Misuse)
  /-- A text or a number that names no value of its range. -/
  | badValue
  /-- A character in a text of hexadecimal digits that is none. -/
  | notHexadecimal (position : Nat)
  /-- A value of the wrong kind. -/
  | wrongKind
  /-- A document that is not made of named members. -/
  | notAnObject
  /-- A value that has no place in a table. -/
  | unshowable
  /-- A moment beyond the end of the calendar. -/
  | beyondCalendar
  /-- A whole number beyond all doubles. -/
  | beyondDoubles
  /-- A message that cannot be written. -/
  | unwritable (e : EncodeError)
  /-- A time that no timer can be set to. -/
  | timer (e : TimerError)
  | network (e : Address.NetworkError)
  | moment (e : Calendar.MomentError)
  | json (e : Json.ReadError)
  | markup (e : Console.MarkupError)
  | os (e : OsError)
deriving Repr, DecidableEq

/-- Whether a fault lies in a text or a number that should denote something and does not. -/
def Fault.isInValue : Fault → Bool
  | .misuse _ | .badValue | .notHexadecimal _ | .moment _ | .unwritable _ => true
  | .timer e => e ≠ .tooLong
  | .network e => e.isInValue
  | .json e => e ≠ .tooDeep
  | _ => false

/-- The wording of a fault. Those that are never shown have none. -/
def Fault.message : Fault → String
  | .negotiation e => e.message
  | .misuse e => e.message
  | .badValue | .wrongKind | .notAnObject | .unshowable | .beyondCalendar | .beyondDoubles
  | .unwritable _ | .timer _ => ""
  | .notHexadecimal position =>
    "non-hexadecimal number found in fromhex() arg at position " ++ toString position
  | .network e => e.message
  | .moment e => e.message
  | .json e => e.message
  | .markup e => e.message
  | .os e => e.message

end PrefixDelegation
