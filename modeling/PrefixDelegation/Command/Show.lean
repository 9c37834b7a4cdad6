import PrefixDelegation.Command.Basic

/-!
# Showing a lease file

`show` reads a lease that `obtain` or `run` has kept, and shows it as a table or as JSON.
-/

namespace PrefixDelegation.Command

/-- What showing a lease file can be given. -/
structure ShowOptions where
  path : Option String
  asJson : Bool

/-- Whether a lease file that cannot be read is something to tell the user. -/
def isUnreadable : Fault → Bool
  | .os _ | .network _ => true
  | fault => fault.isInValue

/-- Shows a lease file. -/
def showLease (o : ShowOptions) : Act σ Unit := do
  match ← leasePath o.path with
  | none => throw (.usage .noLeaseFile)
  | some path =>
    let shell := (← get).shell
    match Lease.load shell.nesting shell.files (.read path) with
    | .ok l => if o.asJson then say (l.toJson.indented ++ "\n") else display l
    | .error fault =>
      if isUnreadable fault then
        complain ("Could not read " ++ (Path.read path).write ++ ": " ++ fault.message)
        exit 1
      else throw (.crash fault)

end PrefixDelegation.Command
