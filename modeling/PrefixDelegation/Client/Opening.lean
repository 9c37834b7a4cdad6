import PrefixDelegation.Client.Session
import PrefixDelegation.Transport.Host

/-!
# Opening a session on a host

The identity of the client comes first, then its local address, then the socket, and last the
sequence of transaction identifiers. Whatever fails, the host is as the steps before left it, and
the journal holds what they had to say.
-/

namespace PrefixDelegation

/-- What came of opening a session. -/
structure Opening where
  outcome : Except Fault (Session Host)
  host : Host
  journal : Journal

/-- Opens a session on a host. -/
def ClientConfig.openSession (c : ClientConfig) (random : RandomIds) (h : Host) : Opening :=
  match c.resolveIdentity h.machine h.now with
  | .error fault => ⟨.error fault, h, []⟩
  | .ok identity =>
    match c.resolveLocalAddress h.machine with
    | .error fault => ⟨.error fault, h, identity.journal⟩
    | .ok address =>
      match h.listen address with
      | (.error e, h) => ⟨.error (.os e), h, identity.journal⟩
      | (.ok record, h) =>
        let session := (Session.start c identity random h).mapError .misuse
        ⟨session, h, identity.journal ++ [record]⟩

end PrefixDelegation
