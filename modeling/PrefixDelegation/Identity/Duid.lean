import PrefixDelegation.Octets
import PrefixDelegation.Text.Blank
import PrefixDelegation.Text.Quoted

/-!
# Unique identifiers of clients

A client names itself by an identifier of at least four octets that starts with a type of two
octets, 1 to 4; an identifier of type 1 goes on with a kind of hardware and a time and so has at
least eight octets. Servers bind delegated networks to these octets, which is why a client can be
given its identifier as text: pairs of hexadecimal digits, with colons, dashes and blanks anywhere
between digits.

`Duid.linkLayerTime` makes an identifier of type 1 from a hardware address and a time. The time
counts seconds from the start of the year 2000 and wraps around at 32 bits.
-/

namespace PrefixDelegation

open Text

/-- Why a value is no identifier. -/
inductive DuidError where
  | notHex (text : String)
  | tooShort (length : Nat)
  | unknownType (type : Nat)
  | incomplete
deriving Repr, DecidableEq

/-- The wording of a reading error. -/
def DuidError.message : DuidError → String
  | .notHex text => "invalid DUID hex string: " ++ quoted text
  | .tooShort length => "DUID too short: " ++ toString length ++ " bytes"
  | .unknownType type => "unknown DUID type " ++ toString type
  | .incomplete => "DUID-LLT requires type, hardware type and time"

namespace Duid

/-- The seconds from the epoch of clocks to the start of the year 2000. -/
def epoch : Int := 946684800

/-- Whether octets have the form of an identifier. -/
def check (octets : Octets) : Except DuidError Octets :=
  let type := Octets.toNat (octets.take 2)
  if octets.length < 4 then .error (.tooShort octets.length)
  else if type < 1 ∨ 4 < type then .error (.unknownType type)
  else if type = 1 ∧ octets.length < 8 then .error .incomplete
  else .ok octets

/-- The separators that may stand between digits. -/
def isSeparator (c : Char) : Bool := c == ':' || c == '-' || c == ' '

/-- Reads the text of an identifier. -/
def read (text : String) : Except DuidError Octets :=
  match Octets.ofHex? ((trim text.toList).filter fun c => !isSeparator c) with
  | none => .error (.notHex text)
  | some octets => check octets

/-- Writes an identifier as pairs of digits with colons between them. -/
def write (octets : Octets) : String :=
  String.intercalate ":" (octets.map fun b => String.ofList (Octets.octetDigits b))

/-- The identifier made from a hardware address and a time in seconds since the epoch of clocks. -/
def linkLayerTime (address : Octets) (seconds : Int) : Octets :=
  [0, 1, 0, 1] ++ Octets.ofNat 4 ((seconds - epoch).emod 0x100000000).toNat ++ address

end Duid

end PrefixDelegation
