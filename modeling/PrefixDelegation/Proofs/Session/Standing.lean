import Mathlib.Tactic.Common
import PrefixDelegation.Proofs.Exchange.Reply
import PrefixDelegation.Proofs.Session.Run

/-!
# Where a session stands

Four fields of a session tell its caller what came of the calls so far: the state, the Advertise
that is kept, the lease, and the error. They are its *standing*. The calls change them at different
moments, and a call that is stopped leaves them where it had come to.

`reached_sound` is the invariant of whole runs, over any transport (`Standing.Sound`): a bound
session has no error and keeps an Advertise, a failed one has an error, an idle one keeps nothing; a
lease that grants anything has its Advertise beside it; what is kept as an Advertise is one; and the
lease was granted by a Reply that was accepted in the run.

The invariant has two halves. The clauses of `Standing.Kept` do not look at state and error, so they
also hold between two updates of one call; the clauses on the states hold whenever a call is over.
The bridge between the two is what each operation does to the standing, said once for each
(`solicit_standing`, `request_standing`, `giveBack_standing`).
-/

namespace PrefixDelegation

/-- What a session tells about the calls so far. -/
structure Standing where
  state : SessionState
  advertise : Option Message
  lease : Lease
  error : Option NegotiationError

namespace Session

variable {τ : Type}

/-- The standing of a session. -/
def standing (s : Session τ) : Standing := ⟨s.state, s.advertise, s.lease, s.error⟩

/-! ### Moving the session without an exchange -/

@[simp] theorem standing_note (s : Session τ) (level : Level) (text : String) :
    (s.note level text).standing = s.standing := rfl

@[simp] theorem standing_draw (s : Session τ) : s.draw.2.standing = s.standing := rfl

/-- Stamping changes the transaction identifier alone. -/
theorem stamp_standing (s : Session τ) (m : Message) :
    (s.stamp m).2.standing = s.standing ∧ (s.stamp m).1.type = m.type := by
  unfold stamp
  split <;> exact ⟨rfl, rfl⟩

/-- Asking for a delegation keeps the type of a message. -/
theorem askForDelegation_type (m : Message) : (askForDelegation m).type = m.type := by
  unfold askForDelegation Message.addOption
  split
  · rfl
  · split <;> rfl

/-- Adding an offer keeps the type of a message. -/
theorem withOffer_type (m advertise : Message) : (m.withOffer advertise).type = m.type := by
  unfold Message.withOffer Message.addOption
  split
  · rfl
  · split <;> rfl

/-- What is sent as a Solicit is of that type. -/
theorem prepareSolicit_standing (s : Session τ) (given : Option Message)
    (h : (Call.solicit given).IsProper) :
    (s.prepareSolicit given).2.standing = s.standing ∧
      (s.prepareSolicit given).1.type = .solicit := by
  cases given with
  | some m =>
    obtain ⟨hs, ht⟩ := s.stamp_standing (askForDelegation m)
    exact ⟨hs, ht.trans ((askForDelegation_type m).trans h)⟩
  | none =>
    obtain ⟨hs, ht⟩ := s.draw.2.stamp_standing (askForDelegation (.solicit s.duid s.draw.1))
    exact ⟨hs.trans s.standing_draw, ht.trans (askForDelegation_type _)⟩

/-- An answer to an Advertise is of the type asked for, or it cannot be built, for a reason of its
own. -/
theorem prepareAnswer_standing (s : Session τ) (advertise : Option Message) (type : MessageType) :
    (s.prepareAnswer advertise type).2.standing = s.standing ∧
      ((∃ sent, (s.prepareAnswer advertise type).1 = .ok sent ∧ sent.type = type) ∨
        ∃ cause, (s.prepareAnswer advertise type).1 = .error (.codec (.advertise cause))) := by
  unfold prepareAnswer
  split
  · next a server _ =>
    obtain ⟨hs, ht⟩ := s.draw.2.stamp_standing
      (Message.withOffer { Message.request s.duid server s.draw.1 with type } a)
    exact ⟨hs.trans s.standing_draw, .inl ⟨_, rfl, ht.trans (withOffer_type _ _)⟩⟩
  · next cause _ => exact ⟨rfl, .inr ⟨cause, rfl⟩⟩
  · exact ⟨rfl, .inr ⟨.missing, rfl⟩⟩

/-! ### What each operation does to the standing -/

variable [Transport τ]

@[simp] theorem standing_exchange (s : Session τ) (state : SessionState) (m : Message) :
    (s.exchange state m).2.standing = { s.standing with state } := rfl

/-- A reply is of the type with which servers answer the message that was sent. -/
theorem exchange_reply_type {s : Session τ} {state : SessionState} {m reply : Message}
    (h : (s.exchange state m).1 = .ok reply) :
    m.type.expectedReply = .none ∨ reply.type = m.type.expectedReply := by
  obtain ⟨-, _, hreply⟩ := exchange_ok h
  exact hreply.type_eq

/-- A Solicit leaves the session soliciting, with the Advertise that answered if one did. -/
theorem solicit_standing (s : Session τ) (given : Option Message)
    (h : (Call.solicit given).IsProper) :
    (∃ fault, (s.solicit given).1 = .error fault ∧
      (s.solicit given).2.standing = { s.standing with state := .soliciting }) ∨
    (∃ round, (s.solicit given).1 = .ok round ∧ round.received.type = .advertise ∧
      (s.solicit given).2.standing
        = { s.standing with state := .soliciting, advertise := some round.received }) := by
  obtain ⟨hs, ht⟩ := s.prepareSolicit_standing given h
  rcases hp : s.prepareSolicit given with ⟨sent, s₁⟩
  rw [hp] at hs ht
  -- the exchange moves the state and nothing else
  have hx := s₁.standing_exchange .soliciting sent
  rcases hr : s₁.exchange .soliciting sent with ⟨outcome, s₂⟩
  rw [hr, hs] at hx
  cases outcome with
  | error fault =>
    left
    rw [solicit_of_error hp hr]
    exact ⟨fault, rfl, hx⟩
  | ok received =>
    right
    -- what answers a Solicit is an Advertise
    have htype := exchange_reply_type (congrArg Prod.fst hr)
    rw [ht] at htype
    rw [solicit_of_reply hp hr]
    refine ⟨⟨sent, received⟩, rfl, htype.resolve_left (by decide), ?_⟩
    rw [standing_note]
    change { s₂.standing with advertise := some received } = _
    rw [hx]

/-- A request either cannot be built and moves nothing, or it leaves the session requesting. -/
theorem request_standing (s : Session τ) (advertise : Option Message) :
    (∃ cause, (s.request advertise).1 = .error (.negotiation (.codec (.advertise cause))) ∧
      (s.request advertise).2.standing = s.standing) ∨
    (∃ fault, (s.request advertise).1 = .error fault ∧
      (s.request advertise).2.standing = { s.standing with state := .requesting }) ∨
    (∃ round, (s.request advertise).1 = .ok round ∧ round.received.type = .reply ∧
      (s.request advertise).2.standing = { s.standing with state := .requesting }) := by
  obtain ⟨hs, ht⟩ := s.prepareAnswer_standing advertise .request
  rcases hp : s.prepareAnswer advertise .request with ⟨answer, s₁⟩
  rw [hp] at hs ht
  rcases ht with ⟨sent, rfl, ht⟩ | ⟨cause, rfl⟩
  · -- as with a Solicit, the exchange moves the state and nothing else
    have hx := s₁.standing_exchange .requesting sent
    rcases hr : s₁.exchange .requesting sent with ⟨outcome, s₂⟩
    rw [hr, hs] at hx
    cases outcome with
    | error fault =>
      rw [request_of_error hp hr]
      exact .inr (.inl ⟨fault, rfl, hx⟩)
    | ok received =>
      -- what answers a Request is a Reply
      have htype := exchange_reply_type (congrArg Prod.fst hr)
      rw [ht] at htype
      rw [request_of_reply hp hr]
      exact .inr (.inr ⟨⟨sent, received⟩, rfl, htype.resolve_left (by decide), hx⟩)
  · rw [request_of_unanswerable hp]
    exact .inl ⟨cause, rfl, hs⟩

/-- Giving back has nothing to work on, or nothing can be built, and neither moves the session; or
it leaves the session releasing. -/
theorem giveBack_standing (s : Session τ) :
    (s.advertise = none ∧ s.giveBack.1 = .error (.negotiation .noActiveLease) ∧
      s.giveBack.2.standing = s.standing) ∨
    (∃ cause, s.giveBack.1 = .error (.negotiation (.codec (.advertise cause))) ∧
      s.giveBack.2.standing = s.standing) ∨
    (s.giveBack.2.standing = { s.standing with state := .releasing }) := by
  rcases h : s.advertise with _ | advertise
  · rw [giveBack_of_none h]
    exact .inl ⟨rfl, rfl, rfl⟩
  · right
    obtain ⟨hs, ht⟩ := s.prepareAnswer_standing (some advertise) .release
    rcases hp : s.prepareAnswer (some advertise) .release with ⟨answer, s₁⟩
    rw [hp] at hs ht
    rcases ht with ⟨sent, rfl, -⟩ | ⟨cause, rfl⟩
    · right
      have hx := s₁.standing_exchange .releasing sent
      rw [hs] at hx
      rw [giveBack_of_sent h hp]
      exact hx
    · rw [giveBack_of_unanswerable h hp]
      exact .inl ⟨cause, rfl, hs⟩

/-! ### What lease and Advertise are left at -/

/-- A Solicit that is stopped leaves the Advertise that is kept alone. -/
theorem solicit_advertise_of_error {s s₁ : Session τ} {given : Option Message} {fault : Fault}
    (h : s.solicit given = (.error fault, s₁)) : s₁.advertise = s.advertise := by
  have hprepare : (s.prepareSolicit given).2.standing = s.standing := by
    cases given with
    | some m => exact (s.stamp_standing _).1
    | none => exact (s.draw.2.stamp_standing _).1
  rcases hp : s.prepareSolicit given with ⟨sent, s₂⟩
  rw [hp] at hprepare
  have hexchange := s₂.standing_exchange .soliciting sent
  rcases hr : s₂.exchange .soliciting sent with ⟨fault' | received, s₃⟩
  · rw [solicit_of_error hp hr] at h
    cases h
    rw [hr, hprepare] at hexchange
    exact congrArg Standing.advertise hexchange
  · rw [solicit_of_reply hp hr] at h
    cases h

/-- One that is answered keeps the Advertise that answered. -/
theorem solicit_advertise_of_ok {s s₁ : Session τ} {given : Option Message} {round : Round}
    (h : s.solicit given = (.ok round, s₁)) : s₁.advertise = some round.received := by
  rcases hp : s.prepareSolicit given with ⟨sent, s₂⟩
  rcases hr : s₂.exchange .soliciting sent with ⟨fault | received, s₃⟩
  · rw [solicit_of_error hp hr] at h
    cases h
  · rw [solicit_of_reply hp hr] at h
    cases h
    rfl

/-- A Request leaves the Advertise that is kept alone. -/
theorem request_advertise (s : Session τ) (advertise : Option Message) :
    (s.request advertise).2.advertise = s.advertise := by
  rcases s.request_standing advertise with ⟨_, -, hs⟩ | ⟨_, -, hs⟩ | ⟨_, -, -, hs⟩
  · exact congrArg Standing.advertise hs
  · exact congrArg Standing.advertise hs
  · exact congrArg Standing.advertise hs

omit [Transport τ] in
/-- Being stopped changes neither lease nor Advertise. -/
theorem stoppedBy_kept (s : Session τ) (fault : Fault) :
    (s.stoppedBy fault).2.lease = s.lease ∧ (s.stoppedBy fault).2.advertise = s.advertise := by
  cases fault <;> exact ⟨rfl, rfl⟩

/-- Giving back changes neither, whatever comes of it. -/
theorem giveBack_kept (s : Session τ) :
    s.giveBack.2.lease = s.lease ∧ s.giveBack.2.advertise = s.advertise := by
  rcases s.giveBack_standing with ⟨-, -, hs⟩ | ⟨_, -, hs⟩ | hs
  · exact ⟨congrArg Standing.lease hs, congrArg Standing.advertise hs⟩
  · exact ⟨congrArg Standing.lease hs, congrArg Standing.advertise hs⟩
  · exact ⟨congrArg Standing.lease hs, congrArg Standing.advertise hs⟩

/-- Keeping a lease leaves the Advertise alone. -/
theorem bind_advertise (s : Session τ) (reply : Message) :
    (s.bind reply).2.advertise = s.advertise := by
  cases hl : Lease.ofReply reply (Transport.now s.transport) with
  | error fault => rw [bind_of_fault hl]
  | ok lease =>
    obtain ⟨journal, hbind⟩ := bind_of_lease hl
    rw [hbind]

end Session

/-! ### The invariant -/

/-- The clauses on Advertise and lease, which hold at every moment of a call. -/
structure Standing.Kept (heard : List Message) (st : Standing) : Prop where
  /-- A lease that grants anything has its Advertise beside it. -/
  held : st.lease ≠ .empty → st.advertise.isSome
  /-- What is kept as an Advertise is one. -/
  advertise_type : ∀ a, st.advertise = some a → a.type = .advertise
  /-- The lease was granted by a Reply that was accepted. -/
  granted : st.lease = .empty ∨
    ∃ reply ∈ heard, reply.type = .reply ∧ ∃ now, Lease.ofReply reply now = .ok st.lease

/-- **The invariant of a session between two calls**, given the messages that were accepted so
far. -/
structure Standing.Sound (heard : List Message) (st : Standing) : Prop extends st.Kept heard where
  /-- A bound session has no error and keeps an Advertise. -/
  bound : st.state = .bound → st.error = none ∧ st.advertise.isSome
  /-- A failed session has an error. -/
  failed : st.state = .failed → st.error ≠ none
  /-- An idle session keeps nothing. -/
  idle : st.state = .idle → st.advertise = none ∧ st.lease = .empty

namespace Standing

variable {heard : List Message} {st : Standing}

/-- What was accepted stays accepted. -/
theorem Kept.append (h : st.Kept heard) (more : List Message) : st.Kept (heard ++ more) where
  held := h.held
  advertise_type := h.advertise_type
  granted := h.granted.imp_right fun ⟨reply, hmem, hrest⟩ =>
    ⟨reply, List.mem_append_left _ hmem, hrest⟩

theorem Sound.append (h : st.Sound heard) (more : List Message) : st.Sound (heard ++ more) where
  toKept := h.toKept.append more
  bound := h.bound
  failed := h.failed
  idle := h.idle

/-- A session that is idle and keeps nothing stands soundly. -/
theorem idle_sound (heard : List Message) (error : Option NegotiationError) :
    Sound heard ⟨.idle, none, .empty, error⟩ where
  held hl := absurd rfl hl
  advertise_type _ ha := by cases ha
  granted := .inl rfl
  bound hb := by cases hb
  failed hf := by cases hf
  idle _ := ⟨rfl, rfl⟩

/-- State and error are none of what is kept. -/
theorem Kept.with_state_error (h : st.Kept heard) (state : SessionState)
    (error : Option NegotiationError) : Kept heard { st with state, error } :=
  ⟨h.held, h.advertise_type, h.granted⟩

/-- An Advertise takes the place of the one before it. -/
theorem Kept.with_advertise (h : st.Kept heard) {a : Message} (ha : a.type = .advertise) :
    Kept heard { st with advertise := some a } where
  held _ := rfl
  advertise_type _ ha' := Option.some.inj ha' ▸ ha
  granted := h.granted

/-- While a session is at work, the invariant asks for no more than what is kept. -/
theorem Kept.sound (h : st.Kept heard)
    (hstate : st.state = .soliciting ∨ st.state = .requesting ∨ st.state = .releasing) :
    st.Sound heard where
  toKept := h
  bound hb := by rw [hb] at hstate; simp at hstate
  failed hf := by rw [hf] at hstate; simp at hstate
  idle hi := by rw [hi] at hstate; simp at hstate

/-- Recording an error settles a call, whatever the error, when the session is at work. -/
theorem Kept.sound_of_error (h : st.Kept heard)
    (hstate : st.state = .soliciting ∨ st.state = .requesting ∨ st.state = .releasing)
    (e : NegotiationError) :
    Sound heard { st with
      state := if e = .noActiveLease then st.state else .failed
      error := some e } := by
  split
  · exact (h.with_state_error st.state (some e)).sound hstate
  · exact ⟨h.with_state_error .failed (some e), by simp, by simp, by simp⟩

end Standing

/-! ### Every call keeps the invariant -/

namespace Session

variable {τ : Type} [Transport τ] {s : Session τ} {heard : List Message}

theorem solicit_sound {given : Option Message} (hp : (Call.solicit given).IsProper)
    (h : s.standing.Sound heard) :
    (s.after (.solicit given)).standing.Sound (heard ++ s.accepted (.solicit given)) := by
  have hkept := h.toKept.append (s.accepted (.solicit given))
  change (s.solicit given).2.standing.Sound _
  rcases s.solicit_standing given hp with ⟨fault, -, hs⟩ | ⟨round, -, htype, hs⟩
  · rw [hs]
    exact (hkept.with_state_error .soliciting s.error).sound (.inl rfl)
  · rw [hs]
    exact ((hkept.with_state_error .soliciting s.error).with_advertise htype).sound (.inl rfl)

theorem request_sound (advertise : Option Message) (h : s.standing.Sound heard) :
    (s.after (.request advertise)).standing.Sound (heard ++ s.accepted (.request advertise)) := by
  -- in two of the three courses the session is at work, in one it is where it was
  have hsound := h.append (s.accepted (.request advertise))
  have hworking := (hsound.toKept.with_state_error .requesting s.error).sound (.inr (.inl rfl))
  change (s.request advertise).2.standing.Sound _
  rcases s.request_standing advertise with ⟨cause, -, hs⟩ | ⟨fault, -, hs⟩ | ⟨round, -, -, hs⟩
  · -- nothing was moved
    exact hs ▸ hsound
  · exact hs ▸ hworking
  · exact hs ▸ hworking

omit [Transport τ] in
/-- An operation that is stopped at work keeps the invariant. -/
theorem stoppedBy_sound (h : s.standing.Kept heard)
    (hstate : s.state = .soliciting ∨ s.state = .requesting ∨ s.state = .releasing)
    (fault : Fault) : (s.stoppedBy fault).2.standing.Sound heard := by
  cases fault with
  | negotiation e => exact h.sound_of_error hstate e
  | _ => exact h.sound hstate

/-- Keeping the lease that an accepted Reply grants keeps the invariant, whether it can be read or
not. -/
theorem bind_sound {reply : Message} (h : s.standing.Kept heard) (hstate : s.state = .requesting)
    (herror : s.error = none) (hadvertise : s.advertise.isSome) (hmem : reply ∈ heard)
    (htype : reply.type = .reply) : (s.bind reply).2.standing.Sound heard := by
  cases hl : Lease.ofReply reply (Transport.now s.transport) with
  | error fault =>
    rw [bind_of_fault hl]
    exact h.sound (.inr (.inl hstate))
  | ok lease =>
    obtain ⟨journal, hbind⟩ := bind_of_lease hl
    rw [hbind]
    exact {
      held := fun _ => hadvertise
      advertise_type := h.advertise_type
      granted := .inr ⟨reply, hmem, htype, _, hl⟩
      bound := fun _ => ⟨herror, hadvertise⟩
      failed := fun hf => by cases hf
      idle := fun hi => by cases hi }

theorem obtain_sound (h : s.standing.Sound heard) :
    (s.after .obtain).standing.Sound (heard ++ s.accepted .obtain) := by
  -- the error is forgotten first, which what is kept does not look at
  have hkept := h.toKept.append (s.accepted .obtain)
  have hsolicit := solicit_standing { s with error := none } none trivial
  change s.obtain.2.standing.Sound _
  rcases hr : { s with error := none }.solicit none with ⟨outcome, s₁⟩
  rw [hr] at hsolicit
  rcases hsolicit with ⟨fault, rfl, hs⟩ | ⟨round, rfl, htype, hs⟩
  · -- the Solicit is stopped
    rw [obtain_of_error (negotiate_of_solicit_error hr)]
    refine stoppedBy_sound ?_ (.inl (congrArg Standing.state hs)) fault
    exact hs ▸ hkept.with_state_error .soliciting none
  · -- the Advertise is kept, and the session goes on to the Request
    have hk : s₁.standing.Kept (heard ++ s.accepted .obtain) :=
      hs ▸ (hkept.with_state_error .soliciting none).with_advertise htype
    have hrequest := s₁.request_standing (some round.received)
    rcases hr' : s₁.request (some round.received) with ⟨outcome', s₂⟩
    rw [hr'] at hrequest
    rcases hrequest with ⟨cause, rfl, hs'⟩ | ⟨fault, rfl, hs'⟩ | ⟨round', rfl, htype', hs'⟩
    · -- the Request cannot be built
      rw [obtain_of_error (negotiate_of_request_error hr hr')]
      refine stoppedBy_sound (hs' ▸ hk) (.inl ?_) _
      exact (congrArg Standing.state hs').trans (congrArg Standing.state hs)
    · -- the Request is stopped
      rw [obtain_of_error (negotiate_of_request_error hr hr')]
      refine stoppedBy_sound ?_ (.inr (.inl (congrArg Standing.state hs'))) fault
      exact hs' ▸ hk.with_state_error .requesting s₁.standing.error
    · -- the Reply is there, and is the second message that the call accepted
      have haccepted : s.accepted .obtain = [round.received, round'.received] := by
        simp only [accepted, hr, hr', receivedIn]
      have hadvertise : s₂.advertise = some round.received :=
        (congrArg Standing.advertise hs').trans (congrArg Standing.advertise hs)
      rw [obtain_of_reply (negotiate_of_reply hr hr')]
      refine bind_sound ?_ (congrArg Standing.state hs') ?_ (hadvertise ▸ rfl) ?_ htype'
      · exact hs' ▸ hk.with_state_error .requesting s₁.standing.error
      · exact (congrArg Standing.error hs').trans (congrArg Standing.error hs)
      · rw [haccepted]
        simp

theorem release_sound (h : s.standing.Sound heard) :
    (s.after .release).standing.Sound (heard ++ s.accepted .release) := by
  have hsound := h.append (s.accepted .release)
  have hkept := hsound.toKept.with_state_error s.state none
  have hgive := giveBack_standing { s with error := none }
  change s.release.2.standing.Sound _
  rcases hr : { s with error := none }.giveBack with ⟨outcome, s₁⟩
  rw [hr] at hgive
  rcases hgive with ⟨hnone, ho, hs⟩ | ⟨cause, ho, hs⟩ | hs
  · -- there is no Advertise, so the session is not bound, and the state stays
    obtain rfl : outcome = _ := ho
    have hstate : s₁.state = s.state := congrArg Standing.state hs
    rw [release_of_error hr]
    refine {
      toKept := (hs ▸ hkept : s₁.standing.Kept _).with_state_error s₁.state _
      bound := fun hb => ?_
      failed := fun _ => Option.some_ne_none _
      idle := fun hi => ?_ }
    · have hsome := (hsound.bound (hstate.symm.trans hb)).2
      rw [show s.standing.advertise = none from hnone] at hsome
      exact absurd hsome (by simp)
    · have hi' := hsound.idle (hstate.symm.trans hi)
      exact ⟨(congrArg Standing.advertise hs).trans hi'.1,
        (congrArg Standing.lease hs).trans hi'.2⟩
  · -- no Release can be built
    obtain rfl : outcome = _ := ho
    rw [release_of_error hr]
    exact {
      toKept := (hs ▸ hkept : s₁.standing.Kept _).with_state_error .failed _
      bound := fun hb => by cases hb
      failed := fun _ => Option.some_ne_none _
      idle := fun hi => by cases hi }
  · cases outcome with
    | error fault =>
      -- the Release is stopped
      rw [release_of_error hr]
      refine stoppedBy_sound ?_ (.inr (.inr (congrArg Standing.state hs))) fault
      exact hs ▸ hkept.with_state_error .releasing none
    | ok round =>
      -- the session has forgotten Advertise and lease
      obtain ⟨journal, hrelease⟩ := release_of_reply hr
      rw [hrelease]
      exact Standing.idle_sound _ _

/-- Every call keeps the invariant. -/
theorem after_sound (c : Call) (hp : c.IsProper) (h : s.standing.Sound heard) :
    (s.after c).standing.Sound (heard ++ s.accepted c) := by
  cases c with
  | solicit given => exact solicit_sound hp h
  | request advertise => exact request_sound advertise h
  | obtain => exact obtain_sound h
  | release => exact release_sound h

omit [Transport τ] in
/-- A session that has done nothing satisfies the invariant. -/
theorem start_sound {c : ClientConfig} {identity : Identity} {random : RandomIds} {transport : τ}
    (h : start c identity random transport = .ok s) : s.standing.Sound [] := by
  obtain ⟨sequencer, -, rfl⟩ := start_eq h
  exact Standing.idle_sound _ _

/-- **Session invariant.** Whatever is called on a client, in whatever order, and whatever its
transport delivers and however it fails, the session stands soundly: see `Standing.Sound` for the
clauses. -/
theorem reached_sound {c : ClientConfig} {identity : Identity} {random : RandomIds} {transport : τ}
    {s₀ : Session τ} (h₀ : start c identity random transport = .ok s₀)
    (h : Reached s₀ s heard) : s.standing.Sound heard := by
  induction h with
  | start => exact start_sound h₀
  | call c proper _ ih => exact after_sound c proper ih
  | meanwhile _ _ _ ih => exact ⟨ih.toKept, ih.bound, ih.failed, ih.idle⟩

/-- A run that binds the session, then loses the network and renews in vain: the session has failed,
and the lease that it still holds was granted by the Reply it accepted. -/
theorem reached_sound_of_lost_network :
    ∃ s₀ s : Session Script, ∃ heard,
      start { transactionIds := [0x11, 0x22] } ⟨none, [0, 3, 0, 1], []⟩ [] s₀.transport = .ok s₀ ∧
      Reached s₀ s heard ∧ s.state = .failed ∧ s.lease.networks ≠ [] ∧ s.standing.Sound heard := by
  have h₀ := start_small [.datagram (smallAdvertise 0x11), .datagram (smallReply 0x22 56)]
  obtain ⟨s, heard, h, failed, held⟩ : ∃ s heard,
      Reached (smallNegotiation 56) s heard ∧ s.state = .failed ∧ s.lease.networks ≠ [] :=
    ⟨_, _, .call .obtain trivial (.meanwhile (Script.playing []) [] (.call .obtain trivial .start)),
      by decide +kernel, by decide +kernel⟩
  exact ⟨_, s, heard, h₀, h, failed, held, reached_sound h₀ h⟩

end Session

end PrefixDelegation
