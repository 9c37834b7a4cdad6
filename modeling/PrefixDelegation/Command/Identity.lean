import PrefixDelegation.Command.Basic

/-!
# Showing who the client is

`duid` shows the identifier that a session would use. A given identifier comes first, then a given
hardware address, then an interface, and each of them comes first from the command and then from
the settings. Here an empty text counts as not given.
-/

namespace PrefixDelegation.Command

open Text (nonempty?)

/-- What showing the identifier can be given. -/
structure IdentityOptions where
  interface : Option String
  duid : Option String
  hardwareAddress : Option String

/-- What an identifier is taken from. -/
inductive IdentitySource where
  | duid (text : String)
  | hardwareAddress (text : String)
  | interface (name : String)
deriving Repr, DecidableEq

/-- What the identifier is taken from, if there is anything to take it from. -/
def IdentityOptions.source? (o : IdentityOptions) (s : Settings) : Option IdentitySource :=
  ((((nonempty? o.duid).or (nonempty? s.duid)).map .duid).or
    (((nonempty? o.hardwareAddress).or (nonempty? s.hardwareAddress)).map .hardwareAddress)).or
    (((nonempty? o.interface).or (nonempty? s.interface)).map .interface)

/-- The identifier that is taken from a source. -/
def IdentitySource.resolve (source : IdentitySource) (m : Machine) (now : Calendar.Moment) :
    Except NegotiationError Octets :=
  match source with
  | .duid text => (Given.text text).readDuid.mapError .codec
  | .hardwareAddress text => do
    let address ← (Given.text text).readHardwareAddress.mapError .codec
    return Duid.linkLayerTime address (epochSeconds now)
  | .interface name => do
    return Duid.linkLayerTime (← m.hardwareAddress name) (epochSeconds now)

/-- Shows the identifier. -/
def showIdentity (o : IdentityOptions) : Act Network Unit := do
  match o.source? (← settings) with
  | none => throw (.usage .noIdentitySource)
  | some source =>
    let host := (← get).net.host
    match source.resolve host.machine host.now with
    | .ok duid => say (Duid.write duid ++ "\n")
    | .error e =>
      complain ("Error: " ++ e.message)
      exit 1

end PrefixDelegation.Command
