import PrefixDelegation.Files.Basic
import PrefixDelegation.Json.Writer
import PrefixDelegation.Seconds

/-!
# Leases

A lease is what a server granted: networks, name servers, and the moment from which the grant has
to be renewed. The start of the calendar stands for "no such moment is known", and a lease with
that moment is no lease at all.

`Lease.ofReply` takes a lease from a Reply: the moment is the earliest at which the renewal timer
of some association runs out, and networks and name servers are those of the Reply, in order and
with repetitions. `Lease.toJson` and `Lease.ofJson` are the two directions of the file format.
Name servers are taken from a file as they are, whatever kind of value they have.
-/

namespace PrefixDelegation

open Address Calendar

/-- The configuration granted by a server. -/
structure Lease where
  /-- From when on the lease has to be renewed. -/
  renewAfter : Moment
  networks : List Network
  /-- The name servers, the primary one first. -/
  nameServers : List Json

namespace Lease

/-- The lease that grants nothing. -/
def empty : Lease := ⟨Moment.origin, [], []⟩

/-- Whether anything was granted. -/
def isHeld (l : Lease) : Bool := !l.renewAfter.same Moment.origin

/-! ### From a reply -/

/-- The earlier of the moment found so far and the one at which an association has to be renewed.
The start of the calendar counts as no moment. -/
def earliest (now found : Moment) (a : Wire.Association) : Except Fault Moment :=
  match now.later? a.renewAfter with
  | none => .error .beyondCalendar
  | some due => .ok (if found.same Moment.origin || due.before found then due else found)

/-- The lease that a Reply grants to a client that receives it now. -/
def ofReply (reply : Message) (now : Moment) : Except Fault Lease := do
  let associations ← reply.associations.mapError .network
  let renewAfter ← associations.foldlM (earliest now) Moment.origin
  let networks := associations.flatMap fun a => a.networks.map (·.network)
  return ⟨renewAfter, networks, reply.nameServers.map .text⟩

/-! ### As a document -/

/-- A lease as a JSON document. -/
def toJson (l : Lease) : Json :=
  .object [("valid_until", .text l.renewAfter.write),
    ("prefixes", .list (l.networks.map fun n => .text n.write)),
    ("dns", .list l.nameServers)]

/-- The content of a lease file. -/
def fileContent (l : Lease) : String := l.toJson.indented ++ "\n"

/-- The parts of a value, one after the other: the items of a list, the names of an object, the
characters of a text. -/
def partsOf : Json → Except Fault (List Json)
  | .list items => .ok items
  | .object members => .ok (members.map fun m => .text m.1)
  | .text s => .ok (s.toList.map fun c => .text (String.singleton c))
  | value => if value.isBlank then .ok [] else .error .wrongKind

/-- The moment given for the renewal; a blank value gives none. -/
def momentOf (value : Json) : Except Fault Moment :=
  if value.isBlank then .ok Moment.origin
  else match value with
    | .text s => (Moment.read s).mapError .moment |>.map Moment.assumeUniversal
    | _ => .error .wrongKind

/-- The network given by an item. -/
def networkOf : Json → Except Fault Network
  | .text s => (Network.read s).mapError .network
  | _ => .error .wrongKind

/-- The lease that a document describes. -/
def ofJson : Json → Except Fault Lease
  | .object members => do
    let renewAfter ← momentOf (Json.memberOrNull members "valid_until")
    let networks ← (← partsOf (Json.memberOrNull members "prefixes")).mapM networkOf
    let nameServers ← partsOf (Json.memberOrNull members "dns")
    return ⟨renewAfter, networks, nameServers⟩
  | _ => .error .notAnObject

/-- The lease in the content of a file. -/
def ofFileContent (nesting : Json.Nesting) (content : String) : Except Fault Lease := do
  ofJson (← (Json.read nesting content).mapError .json)

/-- Reads the lease in a file. -/
def load (nesting : Json.Nesting) (f : Files) (p : Path) : Except Fault Lease := do
  ofFileContent nesting (← f.read p)

/-- Puts a lease in the place of a file. -/
def save (l : Lease) (f : Files) (p : Path) : Except Fault Unit × Files :=
  f.replace p l.fileContent

/-! ### In the journal and in time -/

/-- The text of a value, if it is one. -/
def textOf? : Json → Option String
  | .text s => some s
  | _ => none

/-- What the journal says about a lease. -/
def describe (l : Lease) : String :=
  "prefixes=" ++ Text.quotedList (l.networks.map (·.write)) ++ " dns="
    ++ Text.quotedList (l.nameServers.filterMap textOf?) ++ " renew_after=" ++ l.renewAfter.write

/-- How long to wait before the lease is renewed. A moment that is unknown or already past gives
no waiting time of its own, so the fallback is taken. -/
def renewDelay (l : Lease) (fallback : Seconds) (now : Moment) : Except Fault Seconds :=
  if !l.isHeld then .ok fallback
  else match l.renewAfter.since? now with
    | none => .error .wrongKind
    | some micros => .ok (if micros ≤ 0 then fallback else .real (microsToSeconds micros))

end Lease

end PrefixDelegation
