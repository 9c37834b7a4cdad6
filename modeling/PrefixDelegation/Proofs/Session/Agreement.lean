import PrefixDelegation.Proofs.Session.GivingBack
import PrefixDelegation.Proofs.Session.Setup
import PrefixDelegation.Proofs.Wire.Editing

/-!
# Release and Request agree

A Release says to a server what a Request says to it: who the client is, who the server is, and the
delegation that was offered. Client, server and offer come from the setup of the session and from
the Advertise, and neither from the transaction identifier nor from the type. So the two datagrams
differ in their first four octets only, whichever sessions of the client send them and whatever
these have done before.

A release that is stopped leaves Advertise and setup as they were, so the next one hands over the
same datagram with another identifier (`Session.ReleasesInVain.sentBy_eq`).
`Session.release_agrees` puts both together. The two agree also in whether they can be written: a
client whose identifier is too long for a message sends neither.
-/

namespace PrefixDelegation

namespace Message

/-- Behind the header, an answer is the same whatever its type and its transaction. -/
theorem drop_octets_answer (type type' : MessageType) (xid xid' : TransactionId) (duid : Octets)
    (server : Wire.DhcpOption) (a : Message) :
    (answer type xid duid server a).octets.drop 4
      = (answer type' xid' duid server a).octets.drop 4 := by
  rw [drop_octets, drop_octets]
  rfl

end Message

namespace Session

variable {τ : Type} [Recording τ]

omit [Recording τ] in
/-- A release that is stopped keeps the Advertise. -/
theorem release_advertise_of_error [Transport τ] {s : Session τ} {fault : Fault}
    (h : s.release.1 = .error fault) : (s.after .release).advertise = s.advertise := by
  obtain ⟨-, hadvertise⟩ := giveBack_kept { s with error := none }
  rcases hg : { s with error := none }.giveBack with ⟨fault' | round, s₁⟩
  · rw [hg] at hadvertise
    rw [after, release_of_error hg]
    exact (s₁.stoppedBy_kept fault').2.trans hadvertise
  · -- the release was answered
    obtain ⟨journal, hrelease⟩ := release_of_reply hg
    rw [hrelease] at h
    cases h

/-- **Releases in vain.** `ReleasesInVain s₀ s datagrams` says that a client that was at `s₀` can
come to `s` through releases that were stopped, which have handed over these datagrams. In between
there may be any other calls that leave the Advertise as it is, and the world goes on. -/
inductive ReleasesInVain (s₀ : Session τ) : Session τ → List Octets → Prop
  /-- Nothing was called yet. -/
  | start : ReleasesInVain s₀ s₀ []
  /-- A release is stopped. -/
  | release {s : Session τ} {datagrams : List Octets} {fault : Fault}
      (before : ReleasesInVain s₀ s datagrams) (stopped : s.release.1 = .error fault) :
      ReleasesInVain s₀ (s.after .release) (datagrams ++ s.sentBy .release)
  /-- Something else is called. -/
  | call {s : Session τ} {datagrams : List Octets} (c : Call) (other : c ≠ .release)
      (before : ReleasesInVain s₀ s datagrams) (kept : (s.after c).advertise = s.advertise) :
      ReleasesInVain s₀ (s.after c) datagrams
  /-- The world goes on, and the journal may be taken away. -/
  | meanwhile {s : Session τ} {datagrams : List Octets} (transport : τ) (journal : Journal)
      (before : ReleasesInVain s₀ s datagrams) :
      ReleasesInVain s₀ { s with transport, journal } datagrams

namespace ReleasesInVain

variable {s₀ s : Session τ} {datagrams : List Octets}

/-- What a Release is made from is kept. -/
theorem kept (h : s₀.ReleasesInVain s datagrams) :
    s.advertise = s₀.advertise ∧ s.setup = s₀.setup := by
  induction h with
  | start => exact ⟨rfl, rfl⟩
  | release _ stopped ih =>
    exact ⟨(release_advertise_of_error stopped).trans ih.1, (after_setup _ .release).trans ih.2⟩
  | call c _ _ kept ih => exact ⟨kept.trans ih.1, (after_setup _ c).trans ih.2⟩
  | meanwhile _ _ _ ih => exact ih

variable {a : Message} {server : Wire.DhcpOption}

/-- So the next release hands over what the first one would, with the identifier that is next. -/
theorem sentBy_eq (h : s₀.ReleasesInVain s datagrams) (hkept : s₀.advertise = some a)
    (hserver : Message.serverOf (some a) = .ok server) :
    s.sentBy .release
      = (Message.answer .release (s.outbox.nextId .drawn) s₀.duid server a).written := by
  obtain ⟨hadvertise, hsetup⟩ := h.kept
  have hduid : s.duid = s₀.duid := congrArg Setup.duid hsetup
  rw [← hduid]
  exact sentBy_release (hadvertise.trans hkept) hserver

/-- And so did all releases before, and they carry one message. -/
theorem isCarriedBy (h : s₀.ReleasesInVain s datagrams) (hkept : s₀.advertise = some a)
    (hserver : Message.serverOf (some a) = .ok server) :
    ∀ d ∈ datagrams, (Message.answer .release default s₀.duid server a).IsCarriedBy d := by
  -- the induction is on the run, and only a release hands over a datagram that counts
  induction h with
  | start =>
    intro d hd
    cases hd
  | release before _ ih =>
    intro d hd
    rcases List.mem_append.mp hd with hd | hd
    · exact ih d hd
    · rw [before.sentBy_eq hkept hserver] at hd
      exact ⟨_, Message.mem_written_iff.mp hd⟩
  | call _ _ _ _ ih => exact ih
  | meanwhile _ _ _ ih => exact ih

end ReleasesInVain

/-- **Release and Request agree.** Let a client keep an Advertise that names a server. If it gives
back, and if it asks for what that Advertise offers, at whatever time, over whatever transport and
with whatever identifiers, the two datagrams that are handed over, a Release and a Request, are the
same behind their first four octets. However many releases are stopped, the datagrams that they have
handed over, and the one that the next release hands over, are the same apart from their transaction
identifiers.

One datagram is handed over each time if the identifier of the client has a length that can be
declared, and what is kept can be written, as it can since it was read. If the identifier is longer,
neither is handed over. -/
theorem release_agrees {τ' : Type} [Recording τ'] {s : Session τ} (h : NamesServer s.advertise)
    (s' : Session τ') (hsame : s'.duid = s.duid) :
    (∀ released ∈ s.sentBy .release, ∀ requested ∈ s'.sentBy (.request s.advertise),
      released.head? = some 8 ∧ requested.head? = some 3 ∧ released.drop 4 = requested.drop 4) ∧
    (∀ s'' datagrams, s.ReleasesInVain s'' datagrams →
      ∀ d ∈ datagrams ++ s''.sentBy .release, ∀ d' ∈ datagrams ++ s''.sentBy .release,
        Message.SameApartFromXid d d') ∧
    (s.duid.length < 0x10000 → s.KeepsWritable →
      (∃ requested, s'.sentBy (.request s.advertise) = [requested]) ∧
        ∀ s'' datagrams, s.ReleasesInVain s'' datagrams → ∃ again, s''.sentBy .release = [again]) ∧
    (0x10000 ≤ s.duid.length →
      s.sentBy .release = [] ∧ s'.sentBy (.request s.advertise) = []) := by
  obtain ⟨a, server, hkept, hserver⟩ := h.exists_serverOf
  rw [hkept, sentBy_release hkept hserver, sentBy_request hserver s', hsame]
  refine ⟨fun released hreleased requested hrequested => ?_, fun s'' datagrams hvain => ?_,
    fun hduid hread => ?_, fun hlong => ?_⟩
  · -- what was written are the octets of the two answers
    obtain ⟨-, rfl⟩ := Message.encode_eq_ok_iff.mp (Message.mem_written_iff.mp hreleased)
    obtain ⟨-, rfl⟩ := Message.encode_eq_ok_iff.mp (Message.mem_written_iff.mp hrequested)
    exact ⟨rfl, rfl, Message.drop_octets_answer .release .request _ _ s.duid server a⟩
  · -- the datagrams before and the next one are Releases of one client, to one server
    have hall : ∀ d ∈ datagrams ++ s''.sentBy .release,
        (Message.answer .release default s.duid server a).IsCarriedBy d := by
      intro d hd
      rcases List.mem_append.mp hd with hd | hd
      · exact hvain.isCarriedBy hkept hserver d hd
      · rw [hvain.sentBy_eq hkept hserver] at hd
        exact ⟨_, Message.mem_written_iff.mp hd⟩
    intro d hd d' hd'
    exact (hall d hd).sameApartFromXid (hall d' hd')
  · have hwritten := Message.written_answer (hread a hkept) hserver hduid
    refine ⟨⟨_, hwritten .request _⟩, fun s'' datagrams hvain => ?_⟩
    exact ⟨_, (hvain.sentBy_eq hkept hserver).trans (hwritten .release _)⟩
  · -- the client is named in both
    have hnot : ∀ type xid, ¬ (Message.answer type xid s.duid server a).IsWritable :=
      fun type xid hwritable =>
        absurd (Message.duid_of_isWritable_answer hwritable) (Nat.not_lt.mpr hlong)
    exact ⟨Message.written_of_not_isWritable (hnot _ _), Message.written_of_not_isWritable (hnot _ _)⟩

/-- A session that holds a lease, whose server does not answer any more, with two identifiers left.
-/
def unansweredSession : Session Script := { renewalFacing [] with random := [.ofNat 5, .ofNat 6] }

/-- It gives back twice. The second Release carries another identifier and is otherwise the same,
and so is the Request of a client that has done nothing else, behind the header. -/
theorem release_agrees_of_silence :
    ∃ first second requested, unansweredSession.sentBy .release = [first] ∧
      (unansweredSession.after .release).sentBy .release = [second] ∧
      (smallSession []).sentBy (.request unansweredSession.advertise) = [requested] ∧
      first ≠ second ∧ Message.SameApartFromXid first second ∧
      first.drop 4 = requested.drop 4 := by
  have hkept : unansweredSession.advertise
      = some (.messageOf .advertise (.ofNat 0x11) [[0, 2, 0, 4, 0, 3, 0, 1]]) := by
    decide +kernel
  have hnames : NamesServer unansweredSession.advertise := ⟨_, hkept, rfl, rfl⟩
  have hread : unansweredSession.KeepsWritable := by
    intro a ha
    obtain rfl := Option.some.inj (hkept.symm.trans ha)
    decide
  obtain ⟨hagree, hvain, hsends, -⟩ :=
    release_agrees hnames (smallSession []) (by decide +kernel)
  obtain ⟨⟨requested, hrequested⟩, hagain⟩ := hsends (by decide +kernel) hread
  obtain ⟨first, hfirst⟩ := hagain _ _ .start
  obtain ⟨-, -, hbehind⟩ := hagree first (by simp [hfirst]) requested (by simp [hrequested])
  have hsilence : unansweredSession.release.1.isOk = false := by decide +kernel
  obtain ⟨fault, hstopped⟩ : ∃ fault, unansweredSession.release.1 = .error fault := by
    cases hrelease : unansweredSession.release.1 with
    | error fault => exact ⟨fault, rfl⟩
    | ok round =>
      rw [hrelease] at hsilence
      cases hsilence
  obtain ⟨second, hsecond⟩ := hagain _ _ (.release .start hstopped)
  have hsame := hvain _ _ (.release .start hstopped)
  rw [hsecond, hfirst] at hsame
  have hother : unansweredSession.sentBy .release
      ≠ (unansweredSession.after .release).sentBy .release := by
    decide +kernel
  refine ⟨first, second, requested, hfirst, hsecond, hrequested, ?_, ?_, hbehind⟩
  · intro heq
    rw [hfirst, hsecond, heq] at hother
    exact hother rfl
  · exact hsame first (by simp) second (by simp)

end Session

end PrefixDelegation
