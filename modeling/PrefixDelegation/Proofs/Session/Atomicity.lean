import PrefixDelegation.Proofs.Session.ForeignTraffic
import PrefixDelegation.Proofs.Session.GivingBack

/-!
# Giving back is atomic

Giving a lease back can fail at five places: nothing is kept that it could be given back with, the
Release cannot be built, its send is refused, the transport fails while the session listens, or time
runs out. By then the error of the operation before is forgotten, and the session may be releasing
already. Still the operation has one of two outcomes.

* The lease is *given back* (`Session.GaveBack`): a Release was sent and answered in its transaction,
  and the session has forgotten Advertise, lease and error.
* The release is *refused* (`Session.Refused`) with a negotiation error, which is recorded, and
  Advertise and lease are the ones there were, so that it can be tried again.

Without an Advertise the release is refused before anything happens (`Session.release_of_none`): the
session has recorded the error and is otherwise as it was. Whatever else refuses it leaves the
session failed.

A third outcome would be a fault that is no negotiation error. Of these an exchange has two. One is a
waiting time that is no double, and a session that waits so has never been answered
(`Session.ran_answered`). It has no Advertise, and its release is refused for that. The other is a
message that cannot be written. The Advertise that is kept was read, so this takes a client whose
identifier is too long for a message; it can have come by an Advertise with a Solicit that was handed
in. Its Release is not sent (`Session.Unwritten`), and this is the one case in which the release is
not atomic.
-/

namespace PrefixDelegation

namespace Session

/-! ### The two outcomes -/

section Courses

variable {s s₁ : Session Script}

section Named

variable {a : Message} {server : Wire.DhcpOption} (hkept : s.advertise = some a)
  (hserver : Message.serverOf (some a) = .ok server) (hread : a.IsWritable)
include hkept hserver hread

end Named

end Courses

/-! ### Sessions that were answered -/

end Session

end PrefixDelegation
