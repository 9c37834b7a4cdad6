import PrefixDelegation.Proofs.Lease.Granted
import PrefixDelegation.Proofs.Session.Rounds
import PrefixDelegation.Transport.Host

/-!
# How a session moves its transport

Whatever a session does, it moves its transport by sending and receiving, and in no other way
(`Transport.Moves`). So what a send and a receive keep, obtaining a lease keeps
(`Session.obtain_moves`), and it is enough to look at one send and one receive to know something
about the transport behind a whole negotiation.

For the socket of a host this says two things (`Host.grows_of_moves`): its wall clock keeps its offset
from universal time, and what it remembers of what was asked only grows, without a wish to close it.
-/

namespace PrefixDelegation

/-- A transport comes to be another by sending and receiving. -/
inductive Transport.Moves {τ : Type} [Transport τ] (t : τ) : τ → Prop
  | refl : Moves t t
  | send {t' : τ} (before : Moves t t') (data : Octets) (target : SocketAddress)
      (timeout : Seconds) : Moves t (Transport.send t' data target timeout).2
  | receive {t' : τ} (before : Moves t t') (maxSize : Int) (deadline : Float) :
      Moves t (Transport.receive t' maxSize deadline).2

namespace Transport

variable {τ : Type} [Transport τ] {t t' t'' : τ}

theorem Moves.trans (h : Moves t t') (h' : Moves t' t'') : Moves t t'' := by
  induction h' with
  | refl => exact h
  | send _ data target timeout ih => exact .send ih data target timeout
  | receive _ maxSize deadline ih => exact .receive ih maxSize deadline

/-- Listening for a reply moves a transport. -/
theorem listen_moves (e : Engine) (xid : TransactionId) (expected : MessageType)
    (deadline : Float) (tally : Tally) (t : τ) :
    Moves t (e.listen xid expected deadline tally t).transport := by
  -- the induction is on what the transport has left to deliver
  induction hp : Transport.pending t using Nat.strongRecOn generalizing tally t with
  | _ pending ih =>
    cases hl : e.limitReached? tally with
    | some limit =>
      rw [listen_of_limit e xid expected deadline tally t hl]
      exact .refl
    | none =>
      have hmove : Moves t (Transport.receive t e.maxSize deadline).2 := .receive .refl _ _
      rcases hr : Transport.receive t e.maxSize deadline with ⟨err | data, t'⟩
      · -- the receive fails, and the loop ends
        rw [hr] at hmove
        rw [listen_of_failure hl hr]
        exact hmove
      · rw [hr] at hmove
        by_cases hj : ∃ m, judge xid expected data = .accepted m
        · -- the datagram answers, and the loop ends
          obtain ⟨m, hm⟩ := hj
          obtain ⟨journal, hx⟩ := listen_of_reply hl hr hm
          rw [hx]
          exact hmove
        · -- the datagram is passed over, and the loop goes on
          push Not at hj
          obtain ⟨record, hx⟩ := listen_of_passed hl hr hj
          have hlt := Transport.pending_receive_lt t t' e.maxSize deadline data hr
          rw [hx]
          exact hmove.trans (ih _ (hp ▸ hlt) (tally.count (judge xid expected data)) t' rfl)

/-- An exchange moves a transport. -/
theorem exchange_moves (e : Engine) (outbound : Message) (asked : MessageType) (t : τ) :
    Moves t (e.exchange outbound asked t).transport := by
  rcases hencode : outbound.encode with err | data
  · obtain ⟨journal, hx⟩ := exchange_of_unwritable e asked t hencode
    rw [hx]
    exact .refl
  have hmove : Moves t (Transport.send t data e.remote e.writeTimeout).2 := .send .refl _ _ _
  rcases hsend : Transport.send t data e.remote e.writeTimeout with ⟨fault | _, t'⟩
  · rw [hsend] at hmove
    obtain ⟨journal, hx⟩ := exchange_of_refused hencode asked hsend
    rw [hx]
    exact hmove
  · rw [hsend] at hmove
    cases hwait : e.readTimeout.toFloat? with
    | none =>
      obtain ⟨journal, hx⟩ := exchange_of_endless hencode asked hsend hwait
      rw [hx]
      exact hmove
    | some wait =>
      obtain ⟨record, hx⟩ := exchange_of_sent hencode asked hsend hwait
      rw [hx]
      exact hmove.trans (listen_moves e _ _ _ _ t')

end Transport

/-! ### Sessions -/

namespace Session

open Transport

variable {τ : Type} [Transport τ]

/-- A Solicit moves the transport. -/
theorem solicit_moves (s : Session τ) (given : Option Message) :
    Moves s.transport (s.solicit given).2.transport := by
  obtain ⟨hworld, -⟩ := s.prepareSolicit_world given
  rcases hp : s.prepareSolicit given with ⟨sent, s₁⟩
  rw [hp] at hworld
  have hmove : Moves s.transport (s₁.exchange .soliciting sent).2.transport :=
    hworld ▸ exchange_moves s₁.engine sent .none s₁.transport
  rcases hr : s₁.exchange .soliciting sent with ⟨fault | received, s₂⟩
  · rw [hr] at hmove
    rw [solicit_of_error hp hr]
    exact hmove
  · rw [hr] at hmove
    rw [solicit_of_reply hp hr]
    exact hmove

/-- So does a Request, if one can be built. -/
theorem request_moves (s : Session τ) (advertise : Option Message) :
    Moves s.transport (s.request advertise).2.transport := by
  obtain ⟨hworld, -⟩ := s.prepareAnswer_world advertise .request
  rcases hp : s.prepareAnswer advertise .request with ⟨e | sent, s₁⟩
  · rw [hp] at hworld
    rw [request_of_unanswerable hp]
    exact hworld ▸ .refl
  · rw [hp] at hworld
    have hmove : Moves s.transport (s₁.exchange .requesting sent).2.transport :=
      hworld ▸ exchange_moves s₁.engine sent .none s₁.transport
    rcases hr : s₁.exchange .requesting sent with ⟨fault | received, s₂⟩
    · rw [hr] at hmove
      rw [request_of_error hp hr]
      exact hmove
    · rw [hr] at hmove
      rw [request_of_reply hp hr]
      exact hmove

theorem negotiate_moves (s : Session τ) : Moves s.transport s.negotiate.2.transport := by
  have hsolicit := s.solicit_moves none
  rcases hr : s.solicit none with ⟨fault | round, s₁⟩
  · rw [hr] at hsolicit
    rw [negotiate_of_solicit_error hr]
    exact hsolicit
  · rw [hr] at hsolicit
    have hrequest := hsolicit.trans (s₁.request_moves (some round.received))
    rcases hr' : s₁.request (some round.received) with ⟨fault | round', s₂⟩
    · rw [hr'] at hrequest
      rw [negotiate_of_request_error hr hr']
      exact hrequest
    · rw [hr'] at hrequest
      rw [negotiate_of_reply hr hr']
      exact hrequest

/-- **Obtaining a lease moves the transport**, and does nothing else with it. -/
theorem obtain_moves (s : Session τ) : Moves s.transport s.obtain.2.transport := by
  have hnegotiate := negotiate_moves { s with error := none }
  rcases hn : { s with error := none }.negotiate with ⟨fault | reply, s₁⟩
  · rw [hn] at hnegotiate
    rw [obtain_of_error hn]
    cases fault <;> exact hnegotiate
  · rw [hn] at hnegotiate
    rw [obtain_of_reply hn]
    cases hl : Lease.ofReply reply (Transport.now s₁.transport) with
    | error fault =>
      rw [bind_of_fault hl]
      exact hnegotiate
    | ok lease =>
      obtain ⟨journal, hbind⟩ := bind_of_lease hl
      rw [hbind]
      exact hnegotiate

end Session

/-! ### Hosts -/

/-- Somebody asked to close the socket. -/
def SocketEvent.IsClose : SocketEvent → Prop
  | .close => True
  | _ => False

namespace Host

open Transport

/-- A socket was asked for more, and not to close. -/
structure Grows (h h' : Host) : Prop where
  offset_eq : h'.now.offset = h.now.offset
  events_eq : ∃ more, h'.events = h.events ++ more ∧ ∀ event ∈ more, ¬ event.IsClose

/-- Looking at what will happen on a socket asks it for nothing. -/
theorem Grows.of_eq {h h' : Host} (hnow : h'.now = h.now) (hevents : h'.events = h.events) :
    h.Grows h' :=
  ⟨congrArg _ hnow, [], hevents.trans (List.append_nil _).symm,
    fun _ hmem => absurd hmem List.not_mem_nil⟩

theorem Grows.refl (h : Host) : h.Grows h := .of_eq rfl rfl

theorem Grows.trans {h h' h'' : Host} (g : h.Grows h') (g' : h'.Grows h'') : h.Grows h'' := by
  obtain ⟨hoffset, more, hevents, hclose⟩ := g
  obtain ⟨hoffset', more', hevents', hclose'⟩ := g'
  refine ⟨hoffset'.trans hoffset, more ++ more', ?_, ?_⟩
  · rw [hevents', hevents, List.append_assoc]
  · intro event hmem
    exact (List.mem_append.mp hmem).elim (hclose event) (hclose' event)

theorem Grows.note (h : Host) {event : SocketEvent} (hevent : ¬ event.IsClose) :
    h.Grows (h.note event) :=
  ⟨rfl, [event], rfl, fun _ hmem => List.mem_singleton.mp hmem ▸ hevent⟩

theorem Grows.elapse (h : Host) (seconds : Float) : h.Grows (h.elapse seconds) := by
  refine ⟨?_, [], (List.append_nil _).symm, fun _ hmem => absurd hmem List.not_mem_nil⟩
  change (((Calendar.secondsToMicros? seconds).bind h.now.shift?).getD h.now).offset = _
  cases hshift : (Calendar.secondsToMicros? seconds).bind h.now.shift? with
  | none => rfl
  | some now =>
    obtain ⟨micros, -, hmoved⟩ := Option.bind_eq_some_iff.mp hshift
    exact Calendar.Moment.shift?_offset hmoved

theorem Grows.transmit (h : Host) (data : Octets) (target : SocketAddress) :
    h.Grows (h.transmit data target).2 := by
  have hrefused : ∀ rest, h.Grows { h with refusals := rest } := fun rest => .of_eq rfl rfl
  unfold Host.transmit
  split
  · exact .note _ id
  · exact (hrefused _).trans (.note _ id)
  · split
    · exact hrefused _
    · split
      · exact hrefused _
      · exact hrefused _

theorem Grows.send (h : Host) (data : Octets) (target : SocketAddress) (timeout : Seconds) :
    h.Grows (h.send data target timeout).2 := by
  unfold Host.send
  split
  · exact .refl h
  · exact (Grows.note h id).trans (.transmit _ data target)

theorem Grows.await (h : Host) (maxSize : Int) (seconds : Float) :
    h.Grows (h.await maxSize seconds).2 := by
  unfold Host.await
  split
  · exact .elapse h seconds
  · next arrival rest _ =>
    have hrest : h.Grows { h with arrivals := rest } := .of_eq rfl rfl
    have hwait : ∀ seconds, h.Grows ({ h with arrivals := rest }.elapse seconds) :=
      fun seconds => hrest.trans (.elapse _ seconds)
    dsimp only
    split
    · exact hwait seconds
    · have helapse := hwait arrival.delay
      split
      · exact helapse
      · split
        · exact helapse
        · exact helapse

theorem Grows.receive (h : Host) (maxSize : Int) (deadline : Float) :
    h.Grows (h.receive maxSize deadline).2 := by
  unfold Host.receive
  dsimp only
  split
  · exact .refl h
  · split
    · exact .refl h
    · exact (Grows.note h id).trans (.await _ _ _)

/-- **What a session does to the socket of a host**: its clock keeps its offset, and it is asked for
more, and not to close. -/
theorem grows_of_moves {h h' : Host} (hmove : Moves h h') : h.Grows h' := by
  induction hmove with
  | refl => exact .refl h
  | send _ data target timeout ih => exact ih.trans (.send _ data target timeout)
  | receive _ maxSize deadline ih => exact ih.trans (.receive _ maxSize deadline)

end Host

/-- What obtaining a lease does to the socket. -/
theorem Session.grows_of_obtain {s s' : Session Host} {result : Except Fault Unit}
    (h : s.obtain = (result, s')) : s.transport.Grows s'.transport := by
  have hgrows : s.transport.Grows s.obtain.2.transport := Host.grows_of_moves s.obtain_moves
  rwa [h] at hgrows

end PrefixDelegation
