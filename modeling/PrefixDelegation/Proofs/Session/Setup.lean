import PrefixDelegation.Proofs.Session.Run

/-!
# What a session is set up with

A session is set up with the identity of its client and with an engine. They are its *setup*, and
nothing that is called on it changes them (`Session.after_setup`): a call changes the identifiers
that are left, what the session has to say, and what came of the exchange, and hands all else on.
-/

namespace PrefixDelegation

namespace Session

variable {τ : Type}

/-- What a session is set up with. -/
structure Setup where
  duid : Octets
  hardwareAddress : Option Octets
  engine : Engine

/-- The setup of a session. -/
def setup (s : Session τ) : Setup := ⟨s.duid, s.hardwareAddress, s.engine⟩

/-! ### What happens before and behind an exchange -/

/-- Stamping changes the identifiers that are left. -/
theorem stamp_setup (s : Session τ) (m : Message) : (s.stamp m).2.setup = s.setup := by
  unfold stamp
  split <;> rfl

/-- So does the preparation of a Solicit. -/
theorem prepareSolicit_setup (s : Session τ) (given : Option Message) :
    (s.prepareSolicit given).2.setup = s.setup := by
  cases given with
  | some m => exact s.stamp_setup (askForDelegation m)
  | none => exact s.draw.2.stamp_setup (askForDelegation (.solicit s.duid s.draw.1))

/-- So does the preparation of an answer. -/
theorem prepareAnswer_setup (s : Session τ) (advertise : Option Message) (type : MessageType) :
    (s.prepareAnswer advertise type).2.setup = s.setup := by
  unfold prepareAnswer
  split
  · next a server _ =>
    exact s.draw.2.stamp_setup
      (Message.withOffer { Message.request s.duid server s.draw.1 with type } a)
  · rfl
  · rfl

/-- Being stopped changes state and error. -/
theorem stoppedBy_setup (s : Session τ) (fault : Fault) :
    (s.stoppedBy fault).2.setup = s.setup := by
  cases fault <;> rfl

/-! ### Operations -/

section Operations

variable [Transport τ] (s : Session τ)

theorem solicit_setup (given : Option Message) : (s.solicit given).2.setup = s.setup := by
  have hprepare := s.prepareSolicit_setup given
  rcases hp : s.prepareSolicit given with ⟨sent, s₁⟩
  rw [hp] at hprepare
  have hexchange : (s₁.exchange .soliciting sent).2.setup = s₁.setup := rfl
  rcases hr : s₁.exchange .soliciting sent with ⟨fault | received, s₂⟩
  · rw [hr] at hexchange
    rw [solicit_of_error hp hr]
    exact hexchange.trans hprepare
  · rw [hr] at hexchange
    rw [solicit_of_reply hp hr]
    exact hexchange.trans hprepare

theorem request_setup (advertise : Option Message) :
    (s.request advertise).2.setup = s.setup := by
  have hprepare := s.prepareAnswer_setup advertise .request
  rcases hp : s.prepareAnswer advertise .request with ⟨e | sent, s₁⟩
  · rw [hp] at hprepare
    rw [request_of_unanswerable hp]
    exact hprepare
  · rw [hp] at hprepare
    have hexchange : (s₁.exchange .requesting sent).2.setup = s₁.setup := rfl
    rcases hr : s₁.exchange .requesting sent with ⟨fault | received, s₂⟩
    · rw [hr] at hexchange
      rw [request_of_error hp hr]
      exact hexchange.trans hprepare
    · rw [hr] at hexchange
      rw [request_of_reply hp hr]
      exact hexchange.trans hprepare

theorem negotiate_setup : s.negotiate.2.setup = s.setup := by
  have hsolicit := s.solicit_setup none
  rcases hr : s.solicit none with ⟨fault | round, s₁⟩
  · rw [hr] at hsolicit
    rw [negotiate_of_solicit_error hr]
    exact hsolicit
  · rw [hr] at hsolicit
    have hrequest := s₁.request_setup (some round.received)
    rcases hr' : s₁.request (some round.received) with ⟨fault | round', s₂⟩
    · rw [hr'] at hrequest
      rw [negotiate_of_request_error hr hr']
      exact hrequest.trans hsolicit
    · rw [hr'] at hrequest
      rw [negotiate_of_reply hr hr']
      exact hrequest.trans hsolicit

theorem bind_setup (reply : Message) : (s.bind reply).2.setup = s.setup := by
  cases hl : Lease.ofReply reply (Transport.now s.transport) with
  | error fault => rw [bind_of_fault hl]
  | ok lease =>
    obtain ⟨journal, hbind⟩ := bind_of_lease hl
    rw [hbind]
    rfl

theorem giveBack_setup : s.giveBack.2.setup = s.setup := by
  cases hkept : s.advertise with
  | none => rw [giveBack_of_none hkept]
  | some a =>
    have hprepare := s.prepareAnswer_setup (some a) .release
    rcases hp : s.prepareAnswer (some a) .release with ⟨e | sent, s₁⟩
    · rw [hp] at hprepare
      rw [giveBack_of_unanswerable hkept hp]
      exact hprepare
    · rw [hp] at hprepare
      rw [giveBack_of_sent hkept hp]
      exact hprepare

/-- **No call changes what a session is set up with.** -/
theorem after_setup (c : Call) : (s.after c).setup = s.setup := by
  cases c with
  | solicit given => exact s.solicit_setup given
  | request advertise => exact s.request_setup advertise
  | obtain =>
    change s.obtain.2.setup = s.setup
    have hnegotiate := negotiate_setup { s with error := none }
    rcases hn : { s with error := none }.negotiate with ⟨fault | reply, s₁⟩
    · rw [hn] at hnegotiate
      rw [obtain_of_error hn]
      exact (s₁.stoppedBy_setup fault).trans hnegotiate
    · rw [hn] at hnegotiate
      rw [obtain_of_reply hn]
      exact (s₁.bind_setup reply).trans hnegotiate
  | release =>
    change s.release.2.setup = s.setup
    have hgive := giveBack_setup { s with error := none }
    rcases hg : { s with error := none }.giveBack with ⟨fault | round, s₁⟩
    · rw [hg] at hgive
      rw [release_of_error hg]
      exact (s₁.stoppedBy_setup fault).trans hgive
    · rw [hg] at hgive
      obtain ⟨journal, hrelease⟩ := release_of_reply hg
      rw [hrelease]
      exact hgive

end Operations

/-- **Neither does a run.** -/
theorem reached_setup [Transport τ] {s₀ s : Session τ} {heard : List Message}
    (h : Reached s₀ s heard) : s.setup = s₀.setup := by
  induction h with
  | start => rfl
  | call c _ _ ih => exact (after_setup _ c).trans ih
  | meanwhile _ _ _ ih => exact ih

end Session

end PrefixDelegation
