import PrefixDelegation.Proofs.Session.Setup
import PrefixDelegation.Proofs.Session.Standing
import PrefixDelegation.Proofs.Wire.Lossless

/-!
# What a session can write

Of the messages that a session sends, those that it builds can be written exactly if the identifier of
its client has a length that can be declared (`Session.isWritable_prepareSolicit`,
`Session.isWritable_prepareAnswer`). Nothing else in them can be too long: what is copied from an
Advertise was read, and a session keeps no Advertise that was not (`Session.after_keepsWritable`). A
message that is handed in can be written once it asks for a delegation if it could before.

What was answered was written (`Session.solicit_heard`).
-/

namespace PrefixDelegation

namespace Session

variable {τ : Type}

/-! ### Messages that are prepared -/

/-- A stamp has no part in whether a message can be written. -/
theorem isWritable_stamp (s : Session τ) (m : Message) :
    (s.stamp m).1.IsWritable ↔ m.IsWritable := by
  unfold stamp
  split <;> exact Iff.rfl

/-- Neither has asking for a delegation. -/
theorem isWritable_askForDelegation (m : Message) :
    (askForDelegation m).IsWritable ↔ m.IsWritable := by
  unfold askForDelegation
  split
  · exact Iff.rfl
  · simp [Message.isWritable_addOption]

/-- So a message that is handed in stays what it was. -/
theorem isWritable_prepareSolicit_given (s : Session τ) (m : Message) :
    (s.prepareSolicit (some m)).1.IsWritable ↔ m.IsWritable :=
  (s.isWritable_stamp _).trans (isWritable_askForDelegation m)

/-- A Solicit that is built can be written if the client can be named. -/
theorem isWritable_prepareSolicit (s : Session τ) :
    (s.prepareSolicit none).1.IsWritable ↔ s.duid.length < 0x10000 :=
  calc (s.prepareSolicit none).1.IsWritable
      ↔ (askForDelegation (.solicit s.duid s.draw.1)).IsWritable := isWritable_stamp _ _
    _ ↔ (Message.solicit s.duid s.draw.1).IsWritable := isWritable_askForDelegation _
    _ ↔ s.duid.length < 0x10000 := Message.isWritable_solicit

/-- So can an answer, of whatever type, if what it copies was read. -/
theorem isWritable_prepareAnswer {s s₁ : Session τ} {a answer : Message} {type : MessageType}
    (ha : a.IsWritable) (h : s.prepareAnswer (some a) type = (.ok answer, s₁)) :
    answer.IsWritable ↔ s.duid.length < 0x10000 := by
  unfold prepareAnswer at h
  split at h
  · next a' server hsome hserver =>
    cases hsome
    cases h
    have hrequest : (Message.request s.duid server s.draw.1).IsWritable ↔ s.duid.length < 0x10000 :=
      Message.isWritable_request (ha.serverOf hserver)
    -- the type is not looked at
    exact (isWritable_stamp _ _).trans (ha.withOffer.trans hrequest)
  · cases h
  · cases h

/-! ### Messages that are accepted -/

section Heard

variable [Transport τ] {s : Session τ}

/-- What an exchange is answered with was read, and what was answered was written. -/
theorem exchange_heard {state : SessionState} {m received : Message}
    (h : (s.exchange state m).1 = .ok received) : m.IsWritable ∧ received.IsWritable := by
  obtain ⟨⟨_, hencode⟩, _, hreply⟩ := exchange_ok h
  exact ⟨(Message.encode_eq_ok_iff.mp hencode).1, Message.isWritable_of_decode hreply.decodes⟩

/-- So it is with a Solicit. -/
theorem solicit_heard {given : Option Message} {round : Round}
    (h : (s.solicit given).1 = .ok round) :
    (s.prepareSolicit given).1.IsWritable ∧ round.received.IsWritable := by
  rcases hp : s.prepareSolicit given with ⟨sent, s₁⟩
  rcases hr : s₁.exchange .soliciting sent with ⟨fault | received, s₂⟩
  · rw [solicit_of_error hp hr] at h
    cases h
  · rw [solicit_of_reply hp hr] at h
    cases h
    exact exchange_heard (congrArg Prod.fst hr)

/-- So the client can be named, when a Solicit was answered that was built. -/
theorem duid_of_heard {s₁ : Session τ} {round : Round}
    (h : s.solicit none = (.ok round, s₁)) : s₁.duid.length < 0x10000 := by
  obtain ⟨hwritten, -⟩ := solicit_heard (congrArg Prod.fst h)
  have hsetup := s.solicit_setup none
  rw [h] at hsetup
  rw [show s₁.duid = s.duid from congrArg Setup.duid hsetup]
  exact s.isWritable_prepareSolicit.mp hwritten

/-- A client that was answered in obtaining a lease can be named. -/
theorem duid_of_accepted (h : s.accepted .obtain ≠ []) : s.duid.length < 0x10000 := by
  rcases hr : { s with error := none }.solicit none with ⟨fault | round, s₁⟩
  · simp only [accepted, hr] at h
    exact absurd rfl h
  · obtain ⟨hwritten, -⟩ := solicit_heard (congrArg Prod.fst hr)
    exact (isWritable_prepareSolicit { s with error := none }).mp hwritten

/-! ### The Advertise that is kept -/

/-- **What a call leaves as the Advertise** is none, or the one there was, or what has answered a
Solicit of the call. -/
theorem after_advertise (s : Session τ) (c : Call) :
    (s.after c).advertise = none ∨ (s.after c).advertise = s.advertise ∨
      ∃ error given round, ({ s with error }.solicit given).1 = .ok round ∧
        (s.after c).advertise = some round.received := by
  cases c with
  | solicit given =>
    right
    rcases hr : s.solicit given with ⟨fault | round, s₁⟩
    · rw [after, hr]
      exact .inl (solicit_advertise_of_error hr)
    · rw [after, hr]
      exact .inr ⟨s.error, given, round, congrArg Prod.fst hr, solicit_advertise_of_ok hr⟩
  | request advertise => exact .inr (.inl (s.request_advertise advertise))
  | obtain =>
    right
    rcases hr : { s with error := none }.solicit none with ⟨fault | round, s₁⟩
    · rw [after, obtain_of_error (negotiate_of_solicit_error hr)]
      have hsame := solicit_advertise_of_error (s := { s with error := none }) hr
      exact .inl ((s₁.stoppedBy_kept fault).2.trans hsame)
    · -- the Advertise that answered is kept, whatever comes of the Request
      have hkept := (s₁.request_advertise (some round.received)).trans (solicit_advertise_of_ok hr)
      refine .inr ⟨none, none, round, congrArg Prod.fst hr, ?_⟩
      rcases hr' : s₁.request (some round.received) with ⟨fault | round', s₂⟩
      · rw [hr'] at hkept
        rw [after, obtain_of_error (negotiate_of_request_error hr hr')]
        exact (s₂.stoppedBy_kept fault).2.trans hkept
      · rw [hr'] at hkept
        rw [after, obtain_of_reply (negotiate_of_reply hr hr')]
        exact (s₂.bind_advertise round'.received).trans hkept
  | release =>
    rcases hg : { s with error := none }.giveBack with ⟨fault | round, s₁⟩
    · obtain ⟨-, hadvertise⟩ := giveBack_kept { s with error := none }
      rw [hg] at hadvertise
      rw [after, release_of_error hg]
      exact .inr (.inl ((s₁.stoppedBy_kept fault).2.trans hadvertise))
    · -- the release forgets what was kept
      obtain ⟨journal, hrelease⟩ := release_of_reply hg
      rw [after, hrelease]
      exact .inl rfl

omit [Transport τ] in
/-- What a session keeps as an Advertise can be written. -/
def KeepsWritable (s : Session τ) : Prop := ∀ a, s.advertise = some a → a.IsWritable

omit [Transport τ] in
/-- A session that keeps none is such a session. -/
theorem keepsWritable_of_none (h : s.advertise = none) : s.KeepsWritable := by
  intro a ha
  rw [h] at ha
  cases ha

/-- **It stays so with every call**, since what answers was read. -/
theorem after_keepsWritable (h : s.KeepsWritable) (c : Call) : (s.after c).KeepsWritable := by
  intro a ha
  rcases s.after_advertise c with hnone | hsame | ⟨error, given, round, hround, hkept⟩
  · exact keepsWritable_of_none hnone a ha
  · exact h a (hsame.symm.trans ha)
  · obtain rfl := Option.some.inj (hkept.symm.trans ha)
    exact (solicit_heard hround).2

/-- So it is in a run that begins with none. -/
theorem reached_keepsWritable {s₀ : Session τ} {heard : List Message} (h₀ : s₀.advertise = none)
    (h : Reached s₀ s heard) : s.KeepsWritable := by
  induction h with
  | start => exact keepsWritable_of_none h₀
  | call c _ _ ih => exact after_keepsWritable ih c
  | meanwhile _ _ _ ih => exact ih

end Heard

end Session

end PrefixDelegation
