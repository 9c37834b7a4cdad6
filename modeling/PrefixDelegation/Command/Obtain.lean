import PrefixDelegation.Command.Basic

/-!
# Obtaining and releasing once

`obtain` negotiates a lease, keeps it in a file if there is a path, and shows it. `release` solicits
first, to learn which server holds the delegation, and then gives it back.
-/

namespace PrefixDelegation.Command

/-- What obtaining a lease can be given. -/
structure ObtainOptions where
  connection : Connection
  output : Option String
  asJson : Bool

/-- The document that tells of a lease that was obtained. -/
def successDocument (l : Lease) : Json := .object [("success", .bool true), ("lease", l.toJson)]

/-- The document that tells why no lease was obtained. -/
def failureDocument (e : NegotiationError) : Json :=
  .object [("success", .bool false), ("error", .text e.message)]

/-- Logs everything, if that is asked for. -/
def logInDetail (verbose : Bool) : Act σ Unit := do
  if verbose then orCrash (← setUpLog (.brief true false "INFO" none))

/-- Obtains a lease in a session. -/
def obtainIn (o : ObtainOptions) : Act (Session Host) Unit := do
  unless o.asJson || o.connection.verbose do
    tell "dim" "Soliciting prefix delegation..."
  orCrash (← onSession Session.obtain)
  let session := (← get).net
  match session.error with
  | some e =>
    if o.asJson then say ((failureDocument e).compact ++ "\n")
    else complain ("Failed to obtain prefix: " ++ e.message)
    exit 1
  | none =>
    saveLease session.lease (← leasePath o.output)
    if o.asJson then say ((successDocument session.lease).indented ++ "\n")
    else display session.lease

/-- Obtains a lease. -/
def obtain (o : ObtainOptions) : Act Network Unit := do
  logInDetail o.connection.verbose
  withSession (← openSession o.connection) (obtainIn o)

/-- Goes on after a negotiation, and tells what stopped it. -/
def orFailRelease : Except Fault Session.Round → Act σ Unit
  | .ok _ => pure ()
  | .error (.negotiation e) => do
    complain ("Failed to release prefix: " ++ e.message)
    exit 1
  | .error fault => throw (.crash fault)

/-- Gives a delegation back in a session. -/
def releaseIn : Act (Session Host) Unit := do
  orFailRelease (← onSession (Session.solicit · none))
  orFailRelease (← onSession Session.release)

/-- Gives a delegation back. -/
def release (c : Connection) : Act Network Unit := do
  logInDetail c.verbose
  withSession (← openSession c) releaseIn
  say (← orCrash (onConsole "green" "Prefix released"))

end PrefixDelegation.Command
