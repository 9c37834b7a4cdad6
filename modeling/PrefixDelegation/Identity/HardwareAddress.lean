import PrefixDelegation.Octets
import PrefixDelegation.Text.Quoted

/-!
# Hardware addresses

A hardware address is six octets, given as pairs of hexadecimal digits with colons or dashes
anywhere between digits.
-/

namespace PrefixDelegation

open Text

/-- Why a text is no hardware address. -/
inductive HardwareAddressError where
  | notHex (text : String)
  | wrongLength (text : String)
deriving Repr, DecidableEq

/-- The wording of a reading error. -/
def HardwareAddressError.message : HardwareAddressError → String
  | .notHex text => "invalid hardware address: " ++ quoted text
  | .wrongLength text => "hardware address must be 6 bytes: " ++ quoted text

namespace HardwareAddress

/-- Reads the text of a hardware address. -/
def read (text : String) : Except HardwareAddressError Octets :=
  match Octets.ofHex? (text.toList.filter fun c => !(c == ':' || c == '-')) with
  | none => .error (.notHex text)
  | some octets => if octets.length = 6 then .ok octets else .error (.wrongLength text)

end HardwareAddress

end PrefixDelegation
