import PrefixDelegation.Text.Quoted

/-!
# Socket addresses

Where a datagram goes to or comes from: a host, a port, and for addresses that are only valid on
one link the flow and the number of that link.
-/

namespace PrefixDelegation

/-- A host and the numbers that go with it, the port first. -/
structure SocketAddress where
  host : String
  numbers : List Int
deriving Repr, DecidableEq

namespace SocketAddress

/-- The address in parentheses, as it is shown in the journal. -/
def describe (a : SocketAddress) : String :=
  match a.numbers with
  | [] => "(" ++ Text.quoted a.host ++ ",)"
  | numbers => "(" ++ String.intercalate ", " (Text.quoted a.host :: numbers.map toString) ++ ")"

/-- The port that clients listen on. -/
def clientPort : Int := 546

/-- The port that servers listen on. -/
def serverPort : Int := 547

/-- The servers of a host. -/
def server (host : String) : SocketAddress := ⟨host, [serverPort]⟩

/-- All servers and relays of the link. -/
def allServers : SocketAddress := server "ff02::1:2"

end SocketAddress

end PrefixDelegation
