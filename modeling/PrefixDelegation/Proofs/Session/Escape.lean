import PrefixDelegation.Proofs.Lease.Granted
import PrefixDelegation.Proofs.Session.Rounds
import PrefixDelegation.Proofs.Session.Writing

/-!
# What escapes from obtaining a lease

Obtaining a lease is meant to settle whatever the network does: the operation returns, and the
session is bound, or has failed and keeps the lease it had (`Session.Settled`). Over a script, this
is so for every course of the Solicit and of the Request: the failures of an exchange, and an
Advertise that cannot be answered, are recorded.

Three faults escape (`Session.Escaped`), and leave the session at work, without an error. Two lie in
how the session was set up: its client has an identifier that is too long for a message, or its
waiting time is no double. The third comes from the network: the lease of the Reply is taken when
nothing records errors any more, and a Reply that delegates an overlong network has none.
`Session.obtain_settled_iff` says that these are all.
-/

namespace PrefixDelegation

namespace Session

variable {τ : Type}

/-- How obtaining a lease is meant to end, for a session that stood at `s`. -/
def Settled (s : Session τ) (x : Except Fault Unit × Session τ) : Prop :=
  x.1 = .ok () ∧ (x.2.state = .bound ∧ x.2.error = none ∨
    x.2.state = .failed ∧ x.2.error.isSome ∧ x.2.lease = s.lease)

/-- A session that stood at `s` is *at work*: it solicits or requests, no error is recorded, and the
lease is the one it had. -/
structure AtWork (s s₁ : Session τ) : Prop where
  state_eq : s₁.state = .soliciting ∨ s₁.state = .requesting
  error_eq : s₁.error = none
  lease_eq : s₁.lease = s.lease

/-- A fault has stopped the operation half-way, and nothing was recorded. -/
def Escaped (s : Session τ) (x : Except Fault Unit × Session τ) (fault : Fault) : Prop :=
  x.1 = .error fault ∧ s.AtWork x.2

/-- What has escaped is not settled. -/
theorem Escaped.not_settled {s : Session τ} {x : Except Fault Unit × Session τ} {fault : Fault}
    (h : s.Escaped x fault) : ¬ s.Settled x := by
  rintro ⟨hok, -⟩
  rw [h.1] at hok
  cases hok

/-- A negotiation error that stops a session at work settles the operation. -/
theorem AtWork.stoppedBy_settled {s s₁ : Session τ} (h : s.AtWork s₁) {e : NegotiationError}
    (he : e ≠ .noActiveLease) : s.Settled (s₁.stoppedBy (.negotiation e)) :=
  ⟨rfl, .inr ⟨s₁.fail_state he, rfl, h.lease_eq⟩⟩

/-- While it solicits, a session is at work. -/
theorem solicit_atWork [Transport τ] (s : Session τ) :
    s.AtWork ({ s with error := none }.solicit none).2 := by
  rcases solicit_standing { s with error := none } none trivial with ⟨_, -, hs⟩ | ⟨_, -, -, hs⟩
  · exact ⟨.inl (congrArg Standing.state hs), congrArg Standing.error hs,
      congrArg Standing.lease hs⟩
  · exact ⟨.inl (congrArg Standing.state hs), congrArg Standing.error hs,
      congrArg Standing.lease hs⟩

/-- It stays at work while it requests, whether a Request can be built or not. -/
theorem AtWork.request [Transport τ] {s s₁ : Session τ} (h : s.AtWork s₁)
    (advertise : Option Message) : s.AtWork (s₁.request advertise).2 := by
  rcases s₁.request_standing advertise with ⟨_, -, hs⟩ | hs
  · -- no Request can be built, and the session still solicits
    have hstate : (s₁.request advertise).2.state = s₁.state := congrArg Standing.state hs
    exact ⟨hstate ▸ h.state_eq, (congrArg Standing.error hs).trans h.error_eq,
      (congrArg Standing.lease hs).trans h.lease_eq⟩
  · -- the Request was sent
    have hs' : (s₁.request advertise).2.standing = { s₁.standing with state := .requesting } := by
      rcases hs with ⟨_, -, hs⟩ | ⟨_, -, -, hs⟩
      · exact hs
      · exact hs
    exact ⟨.inr (congrArg Standing.state hs'), (congrArg Standing.error hs').trans h.error_eq,
      (congrArg Standing.lease hs').trans h.lease_eq⟩

/-- Taking the lease of a Reply settles the operation unless the Reply is overlong, and then a fault
escapes. -/
theorem AtWork.bind_courses [Transport τ] {s s₁ : Session τ} (h : s.AtWork s₁) (reply : Message)
    (htime : ((Transport.now s₁.transport).later? (256 ^ 4)).isSome) :
    (¬ reply.IsOverlong ∧ s.Settled (s₁.bind reply)) ∨
      (reply.IsOverlong ∧ ∃ text, s.Escaped (s₁.bind reply) (.network (.invalid text))) := by
  rcases Lease.ofReply_cases reply htime with ⟨hshort, lease, hlease⟩ | ⟨hlong, text, herror⟩
  · -- the lease is kept, and the session bound
    obtain ⟨journal, hbind⟩ := bind_of_lease hlease
    rw [hbind]
    exact .inl ⟨hshort, rfl, .inl ⟨rfl, h.error_eq⟩⟩
  · -- nothing records the fault, and the session stays at work
    rw [bind_of_fault herror]
    exact .inr ⟨hlong, text, rfl, h⟩

/-! ### What a session takes from one exchange to the next -/

/-- What an operation that makes one exchange over a script may come to, if its message is
`writable` or not. -/
structure MakesExchange (s : Session Script) (writable : Prop) {α : Type}
    (x : Except Fault α × Session Script) : Prop where
  /-- The wall clock stands still. -/
  now_eq : x.2.transport.now = s.transport.now
  engine_eq : x.2.engine = s.engine
  /-- A fault is an error that gets recorded, unless nothing was written or there was no deadline. -/
  of_error : ∀ fault, x.1 = .error fault → ¬ writable ∨
    (s.engine.Endless s.transport ∧ fault = .beyondDoubles) ∨
      ∃ err, fault = .negotiation err ∧ err ≠ .noActiveLease
  /-- What was answered had a deadline. -/
  of_ok : ∀ a, x.1 = .ok a → s.engine.readTimeout.toFloat? ≠ none

/-- What an operation comes to that sends a message is what its exchange comes to. -/
theorem Sends.makesExchange {s : Session Script} {sent : Message}
    {x : Except Fault Round × Session Script} (h : s.Sends sent x) :
    s.MakesExchange sent.IsWritable x where
  now_eq := h.exchanged.now_eq
  engine_eq := h.engine_eq
  of_error fault hx := by
    rcases x with ⟨outcome, s₁⟩
    obtain rfl : outcome = .error fault := hx
    have hfailed := h.exchanged_of_error
    rcases hfailed.error_cases with ⟨hnot, -⟩ | hendless | ⟨err, rfl, -⟩
    · exact .inl hnot
    · exact .inr (.inl hendless)
    · exact .inr (.inr
        ⟨err, rfl, fun heq => hfailed.ne_noActiveLease (congrArg Fault.negotiation heq)⟩)
  of_ok round hx := by
    rcases x with ⟨outcome, s₁⟩
    obtain rfl : outcome = .ok round := hx
    exact h.exchanged_of_ok.toFloat?_of_ok

/-- A Solicit makes one exchange. -/
theorem solicit_makesExchange (s : Session Script) (given : Option Message) :
    s.MakesExchange (s.prepareSolicit given).1.IsWritable (s.solicit given) :=
  (s.solicit_sends given).makesExchange

/-- What stops the exchange of a Solicit stops the Solicit. -/
theorem solicit_of_exchanged {s : Session Script} {given : Option Message} {fault : Fault}
    (h : (s.solicit given).1.map Round.received = .error fault) :
    (s.solicit given).1 = .error fault := by
  rcases hr : (s.solicit given).1 with fault' | round
  · rw [hr] at h
    cases h
    rfl
  · rw [hr] at h
    cases h

/-- A Request makes one exchange, if it can be built at all. -/
theorem request_makesExchange (s : Session Script) {a : Message} (ha : a.IsWritable) :
    s.MakesExchange (s.duid.length < 0x10000) (s.request (some a)) := by
  rcases hserver : Message.serverOf (some a) with cause | server
  · -- the Advertise cannot be answered
    rw [request_of_unnamed hserver]
    exact {
      now_eq := rfl
      engine_eq := rfl
      of_error := fun fault h => .inr (.inr ⟨_, (Except.error.inj h).symm, by simp⟩)
      of_ok := fun _ h => by cases h }
  · obtain ⟨sent, s₁, hp, -, h⟩ := request_sends hserver s
    rw [← isWritable_prepareAnswer ha hp]
    exact h.makesExchange

/-! ### How obtaining a lease ends -/

variable {s : Session Script}

/-- A fault that stops the Solicit, and is no negotiation error, escapes. -/
theorem obtain_escaped_of_solicit {fault : Fault} (hnot : ∀ err, fault ≠ .negotiation err)
    (h : ({ s with error := none }.solicit none).1 = .error fault) : s.Escaped s.obtain fault := by
  have hwork := s.solicit_atWork
  rcases hr : { s with error := none }.solicit none with ⟨outcome, s₁⟩
  rw [hr] at hwork h
  obtain rfl : outcome = .error fault := h
  rw [obtain_of_error (negotiate_of_solicit_error hr)]
  cases fault with
  | negotiation err => exact absurd rfl (hnot err)
  | _ => exact ⟨rfl, hwork⟩

/-- A client that cannot be named in a message lets a fault escape. -/
theorem obtain_escaped_of_unwritable (h : ¬ s.duid.length < 0x10000) :
    ∃ e, s.Escaped s.obtain (.unwritable e) := by
  have hnot := mt (isWritable_prepareSolicit { s with error := none }).mp h
  obtain ⟨e, -, hfault, -⟩ :=
    (solicit_sends { s with error := none } none).exchanged.of_not_isWritable hnot
  exact ⟨e, obtain_escaped_of_solicit (by simp) (solicit_of_exchanged hfault)⟩

/-- So does the want of a deadline. -/
theorem obtain_escaped_of_endless (hduid : s.duid.length < 0x10000)
    (h : s.engine.Endless s.transport) : s.Escaped s.obtain .beyondDoubles := by
  have hwritable := (isWritable_prepareSolicit { s with error := none }).mpr hduid
  have hfault := (solicit_sends { s with error := none } none).exchanged.of_endless hwritable h
  exact obtain_escaped_of_solicit (by simp) (solicit_of_exchanged hfault)

/-- Else a negotiation comes to a Reply at the moment it began, or it is stopped by an error that gets
recorded; the session is at work all along. -/
theorem negotiate_courses (hduid : s.duid.length < 0x10000) (h : ¬ s.engine.Endless s.transport) :
    s.AtWork { s with error := none }.negotiate.2 ∧
      ((∃ err, { s with error := none }.negotiate.1 = .error (.negotiation err) ∧
          err ≠ .noActiveLease) ∨
        (∃ reply, { s with error := none }.negotiate.1 = .ok reply ∧
          { s with error := none }.negotiate.2.transport.now = s.transport.now)) := by
  have hwork := s.solicit_atWork
  have hsolicit := solicit_makesExchange { s with error := none } none
  rw [isWritable_prepareSolicit] at hsolicit
  rcases hr : { s with error := none }.solicit none with ⟨fault | round, s₁⟩
  · -- the Solicit is stopped
    rw [hr] at hwork hsolicit
    rw [negotiate_of_solicit_error hr]
    rcases hsolicit.of_error fault rfl with hnot | ⟨hendless, -⟩ | ⟨err, rfl, herr⟩
    · exact absurd hduid hnot
    · exact absurd hendless h
    · exact ⟨hwork, .inl ⟨err, rfl, herr⟩⟩
  · -- the Request names the same client, and what it copies was read
    obtain ⟨-, hread⟩ := solicit_heard (congrArg Prod.fst hr)
    rw [hr] at hwork hsolicit
    have hwork' := hwork.request (some round.received)
    have hrequest := s₁.request_makesExchange hread
    rcases hr' : s₁.request (some round.received) with ⟨fault | round', s₂⟩
    · -- the Request is stopped; it has the deadline that the Solicit had
      rw [hr'] at hwork' hrequest
      rw [negotiate_of_request_error hr hr']
      rcases hrequest.of_error fault rfl with hnot | ⟨hendless, -⟩ | ⟨err, rfl, herr⟩
      · exact absurd (duid_of_heard hr) hnot
      · have hwait := hsolicit.of_ok round rfl
        exact absurd (hsolicit.engine_eq ▸ hendless.2) hwait
      · exact ⟨hwork', .inl ⟨err, rfl, herr⟩⟩
    · -- the Reply is there
      rw [hr'] at hwork' hrequest
      rw [negotiate_of_reply hr hr']
      exact ⟨hwork', .inr ⟨_, rfl, hrequest.now_eq.trans hsolicit.now_eq⟩⟩

/-- So obtaining a lease settles, or a fault escapes that an overlong Reply brings. -/
theorem obtain_courses (htime : (s.transport.now.later? (256 ^ 4)).isSome)
    (hduid : s.duid.length < 0x10000) (h : ¬ s.engine.Endless s.transport) :
    ((∀ reply, { s with error := none }.negotiate.1 = .ok reply → ¬ reply.IsOverlong) ∧
      s.Settled s.obtain) ∨
    (∃ reply, { s with error := none }.negotiate.1 = .ok reply ∧ reply.IsOverlong ∧
      ∃ text, s.Escaped s.obtain (.network (.invalid text))) := by
  obtain ⟨hwork, hcourses⟩ := negotiate_courses hduid h
  rcases hn : { s with error := none }.negotiate with ⟨outcome, s₁⟩
  rw [hn] at hwork hcourses ⊢
  rcases hcourses with ⟨err, ho, herr⟩ | ⟨reply, ho, hnow⟩
  · -- the negotiation is stopped, and the error recorded
    obtain rfl : outcome = .error (.negotiation err) := ho
    rw [obtain_of_error hn]
    refine .inl ⟨?_, hwork.stoppedBy_settled herr⟩
    intro reply hreply
    cases hreply
  · -- the lease of the Reply is taken
    obtain rfl : outcome = .ok reply := ho
    rw [obtain_of_reply hn]
    have htime' : ((Transport.now s₁.transport).later? (256 ^ 4)).isSome := by
      change (s₁.transport.now.later? (256 ^ 4)).isSome
      rw [hnow]
      exact htime
    rcases hwork.bind_courses reply htime' with ⟨hshort, hsettled⟩ | ⟨hlong, hescaped⟩
    · refine .inl ⟨?_, hsettled⟩
      intro reply' hreply'
      cases hreply'
      exact hshort
    · exact .inr ⟨reply, rfl, hlong, hescaped⟩

/-- **When obtaining a lease settles.** Let the calendar go on for longer than any renewal timer.
Then, whatever a script delivers and however it fails, obtaining a lease returns with the session
bound, or failed with an error and the lease it had, exactly if the identifier of the client has a
length that can be declared, there is a deadline to wait for, and the Reply that the negotiation comes
to, if there is one, delegates no overlong network. Otherwise a fault escapes, and the session is left
at work with nothing recorded. -/
theorem obtain_settled_iff (htime : (s.transport.now.later? (2 ^ 32)).isSome) :
    (s.Settled s.obtain ↔ s.duid.length < 0x10000 ∧ ¬ s.engine.Endless s.transport ∧
      ∀ reply, { s with error := none }.negotiate.1 = .ok reply → ¬ reply.IsOverlong) ∧
    (¬ s.Settled s.obtain → (∃ e, s.Escaped s.obtain (.unwritable e)) ∨
      s.Escaped s.obtain .beyondDoubles ∨
      ∃ text, s.Escaped s.obtain (.network (.invalid text))) := by
  by_cases hduid : s.duid.length < 0x10000
  swap
  · -- the client cannot be named, so the operation has not settled
    obtain ⟨e, hescaped⟩ := obtain_escaped_of_unwritable hduid
    refine ⟨⟨fun hsettled => absurd hsettled hescaped.not_settled, ?_⟩, fun _ => .inl ⟨e, hescaped⟩⟩
    rintro ⟨hnamed, -⟩
    exact absurd hnamed hduid
  by_cases h : s.engine.Endless s.transport
  · -- there is no deadline, so it has not settled either
    have hescaped := obtain_escaped_of_endless hduid h
    refine ⟨⟨fun hsettled => absurd hsettled hescaped.not_settled, ?_⟩,
      fun _ => .inr (.inl hescaped)⟩
    rintro ⟨-, hnot, -⟩
    exact absurd h hnot
  · rcases obtain_courses htime hduid h with
      ⟨hshort, hsettled⟩ | ⟨reply, hreply, hlong, text, hescaped⟩
    · exact ⟨⟨fun _ => ⟨hduid, h, hshort⟩, fun _ => hsettled⟩, fun hnot => absurd hsettled hnot⟩
    · -- the Reply is overlong, so neither side of the equivalence holds
      refine ⟨⟨fun hsettled => absurd hsettled hescaped.not_settled, ?_⟩,
        fun _ => .inr (.inr ⟨text, hescaped⟩)⟩
      rintro ⟨-, -, hshort⟩
      exact absurd hlong (hshort reply hreply)

/-- A Reply with a network of 56 bits settles the operation. -/
theorem obtain_settled_of_small_network :
    (smallNegotiation 56).Settled (smallNegotiation 56).obtain := by
  refine (obtain_settled_iff (by decide +kernel)).1.mpr ⟨by decide, ?_, fun reply hreply => ?_⟩
  · rintro ⟨-, hwait⟩
    cases hwait
  · have hread : ((smallNegotiation 56).negotiate.1.toOption.bind
        fun reply => reply.associations.toOption).isSome := by decide +kernel
    rw [show (smallNegotiation 56).negotiate.1 = .ok reply from hreply] at hread
    change reply.associations.toOption.isSome at hread
    rcases has : reply.associations with e | as
    · rw [has] at hread
      cases hread
    · exact Message.associations_ok_iff.mp ⟨as, has⟩

/-- A Reply with a network of 129 bits lets a fault escape from a session that has just started: it
goes on requesting, and nothing is recorded. -/
theorem obtain_escaped_of_network_too_long :
    start { transactionIds := [0x11, 0x22] } ⟨none, [0, 3, 0, 1], []⟩ []
      (smallNegotiation 129).transport = .ok (smallNegotiation 129) ∧
    ((smallNegotiation 129).transport.now.later? (2 ^ 32)).isSome ∧
    (smallNegotiation 129).obtain.2.state = .requesting ∧
    ¬ (smallNegotiation 129).Settled (smallNegotiation 129).obtain := by
  refine ⟨rfl, by decide +kernel, by decide +kernel, ?_⟩
  rintro ⟨hok, -⟩
  have hfault : (smallNegotiation 129).obtain.1.isOk = false := by decide +kernel
  rw [hok] at hfault
  cases hfault

end Session

end PrefixDelegation
