import PrefixDelegation.Proofs.Exchange.Course
import PrefixDelegation.Proofs.Session.Standing

/-!
# Rounds over a script

A Solicit and a Request make one exchange each, which begins where the session stood: with its
transport and its engine. `Session.Sends` says what comes of such an operation, and it does so of
every Solicit (`solicit_sends`) and of every Request that can be built (`request_sends`). A Request
can be built exactly if the Advertise names a server; if it cannot, the session is left as it was
(`request_of_unnamed`).
-/

namespace PrefixDelegation

/-- An Advertise is answered to the server that it names. -/
theorem Message.serverOf_of_advertise {advertise : Message} (h : advertise.type = .advertise) :
    Message.serverOf (some advertise)
      = (advertise.firstOption? .serverId).elim (.error .noServer) .ok := by
  change (if advertise.type ≠ .advertise then _ else _) = _
  rw [if_neg (not_not.mpr h)]
  cases advertise.firstOption? .serverId with
  | none => rfl
  | some server => rfl

namespace Session

variable {τ : Type}

/-! ### What happens before an exchange -/

/-- Stamping leaves transport and engine alone. -/
theorem stamp_world (s : Session τ) (m : Message) :
    (s.stamp m).2.transport = s.transport ∧ (s.stamp m).2.engine = s.engine := by
  unfold stamp
  split <;> exact ⟨rfl, rfl⟩

/-- So does the preparation of a Solicit. -/
theorem prepareSolicit_world (s : Session τ) (given : Option Message) :
    (s.prepareSolicit given).2.transport = s.transport ∧
      (s.prepareSolicit given).2.engine = s.engine := by
  cases given with
  | some m => exact s.stamp_world (askForDelegation m)
  | none => exact s.draw.2.stamp_world (askForDelegation (.solicit s.duid s.draw.1))

/-- So does the preparation of an answer. -/
theorem prepareAnswer_world (s : Session τ) (advertise : Option Message) (type : MessageType) :
    (s.prepareAnswer advertise type).2.transport = s.transport ∧
      (s.prepareAnswer advertise type).2.engine = s.engine := by
  unfold prepareAnswer
  split
  · next a server _ =>
    exact s.draw.2.stamp_world
      (Message.withOffer { Message.request s.duid server s.draw.1 with type } a)
  · exact ⟨rfl, rfl⟩
  · exact ⟨rfl, rfl⟩

/-- An answer to an Advertise that names no server cannot be built. -/
theorem prepareAnswer_of_unnamed {advertise : Option Message} {cause : AdvertiseError}
    (h : Message.serverOf advertise = .error cause) (s : Session τ) (type : MessageType) :
    s.prepareAnswer advertise type = (.error (.codec (.advertise cause)), s) := by
  unfold prepareAnswer
  rw [h]
  cases advertise <;> rfl

/-- An answer to one that names a server can. -/
theorem prepareAnswer_of_named {advertise : Option Message} {server : Wire.DhcpOption}
    (h : Message.serverOf advertise = .ok server) (s : Session τ) (type : MessageType) :
    ∃ answer s₁, s.prepareAnswer advertise type = (.ok answer, s₁) ∧ answer.type = type := by
  obtain ⟨-, hcourses⟩ := s.prepareAnswer_standing advertise type
  rcases hp : s.prepareAnswer advertise type with ⟨answer, s₁⟩
  rw [hp] at hcourses
  rcases hcourses with ⟨sent, rfl, htype⟩ | ⟨cause, rfl⟩
  · exact ⟨sent, s₁, rfl, htype⟩
  · unfold prepareAnswer at hp
    rw [h] at hp
    cases advertise with
    | none => cases h
    | some a => cases hp

/-! ### The rounds -/

/-- What comes of an operation on `s` that sends a message and waits for its reply. -/
structure Sends (s : Session Script) (sent : Message) (x : Except Fault Round × Session Script) :
    Prop where
  exchanged : s.engine.Exchanges sent sent.type.expectedReply s.transport
    (x.1.map Round.received) x.2.transport
  sent_eq : ∀ round, x.1 = .ok round → round.sent = sent
  engine_eq : x.2.engine = s.engine

namespace Sends

variable {s s₁ s₂ : Session Script} {sent : Message} {x : Except Fault Round × Session Script}

/-- An operation that prepares its message without touching the world, and makes of the reply no
more than a round, makes the exchange of `s`. -/
theorem of_exchange {state : SessionState} {outcome : Except Fault Message}
    (hworld : s₁.transport = s.transport ∧ s₁.engine = s.engine)
    (hexchange : s₁.exchange state sent = (outcome, s₂))
    (houtcome : x.1 = outcome.map (Round.mk sent))
    (hworld' : x.2.transport = s₂.transport ∧ x.2.engine = s₂.engine) : s.Sends sent x where
  exchanged := by
    have hcourse : s₁.engine.Exchanges sent sent.type.expectedReply s₁.transport
        (s₁.exchange state sent).1 (s₁.exchange state sent).2.transport :=
      exchange_course s₁.engine sent .none s₁.transport
    have hreceived : x.1.map Round.received = outcome := by
      rw [houtcome]
      cases outcome <;> rfl
    rw [hexchange, hworld.1, hworld.2] at hcourse
    rw [hreceived, hworld'.1]
    exact hcourse
  sent_eq round hround := by
    rw [houtcome] at hround
    cases outcome with
    | error fault => cases hround
    | ok received =>
      cases hround
      rfl
  engine_eq := by
    -- the exchange leaves the engine alone
    have hkept : (s₁.exchange state sent).2.engine = s₁.engine := rfl
    rw [hexchange] at hkept
    exact hworld'.2.trans (hkept.trans hworld.2)

variable {fault : Fault} {round : Round}

/-- An operation that is stopped had no answer. -/
theorem exchanged_of_error (h : s.Sends sent (.error fault, s₁)) :
    s.engine.Exchanges sent sent.type.expectedReply s.transport (.error fault) s₁.transport :=
  h.exchanged

/-- An operation that returns was answered. -/
theorem exchanged_of_ok (h : s.Sends sent (.ok round, s₁)) :
    s.engine.Exchanges sent sent.type.expectedReply s.transport (.ok round.received)
      s₁.transport :=
  h.exchanged

end Sends

/-- **Every Solicit makes an exchange** for the message that was prepared. -/
theorem solicit_sends (s : Session Script) (given : Option Message) :
    s.Sends (s.prepareSolicit given).1 (s.solicit given) := by
  have hworld := s.prepareSolicit_world given
  rcases hp : s.prepareSolicit given with ⟨sent, s₁⟩
  rw [hp] at hworld
  rcases hr : s₁.exchange .soliciting sent with ⟨fault | received, s₂⟩
  · rw [solicit_of_error hp hr]
    exact .of_exchange hworld hr rfl ⟨rfl, rfl⟩
  · rw [solicit_of_reply hp hr]
    exact .of_exchange hworld hr rfl ⟨rfl, rfl⟩

/-- A Request to nobody cannot be built, and the session stays as it was. -/
theorem request_of_unnamed [Transport τ] {advertise : Option Message} {cause : AdvertiseError}
    (h : Message.serverOf advertise = .error cause) (s : Session τ) :
    s.request advertise = (.error (.negotiation (.codec (.advertise cause))), s) :=
  request_of_unanswerable (prepareAnswer_of_unnamed h s .request)

/-- **Every other Request makes an exchange**, for the answer that was prepared. -/
theorem request_sends {advertise : Option Message} {server : Wire.DhcpOption}
    (h : Message.serverOf advertise = .ok server) (s : Session Script) :
    ∃ sent s₁, s.prepareAnswer advertise .request = (.ok sent, s₁) ∧ sent.type = .request ∧
      s.Sends sent (s.request advertise) := by
  have hworld := s.prepareAnswer_world advertise .request
  obtain ⟨sent, s₁, hp, htype⟩ := prepareAnswer_of_named h s .request
  rw [hp] at hworld
  refine ⟨sent, s₁, hp, htype, ?_⟩
  rcases hr : s₁.exchange .requesting sent with ⟨fault | received, s₂⟩
  · rw [request_of_error hp hr]
    exact .of_exchange hworld hr rfl ⟨rfl, rfl⟩
  · rw [request_of_reply hp hr]
    exact .of_exchange hworld hr rfl ⟨rfl, rfl⟩

end Session

end PrefixDelegation
