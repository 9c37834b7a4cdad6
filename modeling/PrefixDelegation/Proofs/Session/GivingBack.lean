import PrefixDelegation.Proofs.Session.Echo
import PrefixDelegation.Proofs.Session.Escape
import PrefixDelegation.Proofs.Session.Identifiers

/-!
# To whom a lease is given back

A session gives its lease back to the server of the Advertise that it keeps. That need not be the
server that granted the lease. A renewal that is stopped keeps the lease, but when it is stopped its
Solicit may have been answered already, and so may a Solicit that was called for by itself; in both
cases the Advertise that answered has taken the place of the one before.

`Session.reached_releases` says what is true of every run. A lease that is held was granted by an
operation of the run (`Session.Grants`), whose Advertise names a server. The Advertise that is kept
is that one, unless an Advertise was accepted since, and then it is the last of those. If it names a
server, giving back sends a Release to that server. If not, nothing is sent.

The invariant is `Session.Granted`, and one call keeps it because of what it does to lease and
Advertise (`Session.after_lease_cases`): the lease is gone, or was just granted, or is the one there
was, and then the Advertise is the last that the call accepted, if it accepted any.
-/

namespace PrefixDelegation

/-- The last Advertise among some messages. -/
def lastAdvertise? (heard : List Message) : Option Message :=
  (heard.filter fun m => m.type = .advertise).getLast?

/-- What was heard later counts first. -/
theorem lastAdvertise?_append (heard later : List Message) :
    lastAdvertise? (heard ++ later) = (lastAdvertise? later).or (lastAdvertise? heard) := by
  rw [lastAdvertise?, List.filter_append, List.getLast?_append]
  rfl

@[simp] theorem lastAdvertise?_nil : lastAdvertise? [] = none := rfl

theorem lastAdvertise?_singleton {m : Message} (h : m.type = .advertise) :
    lastAdvertise? [m] = some m := by
  simp [lastAdvertise?, h]

theorem lastAdvertise?_of_reply {m : Message} (h : m.type = .reply) : lastAdvertise? [m] = none := by
  simp [lastAdvertise?, h]

/-- What is found is an Advertise. -/
theorem type_of_lastAdvertise? {heard : List Message} {a : Message}
    (h : lastAdvertise? heard = some a) : a.type = .advertise := by
  have hmem := List.mem_of_getLast? h
  simpa using (List.mem_filter.mp hmem).2

/-- A lease that is held grants something. -/
theorem Lease.ne_empty_of_isHeld {l : Lease} (h : l.isHeld) : l ≠ .empty := by
  rintro rfl
  revert h
  decide

namespace Session

variable {τ : Type}

section Calls

variable [Transport τ]

/-! ### What a call does to lease and Advertise -/

/-- Obtaining a lease has granted one: an Advertise that names a server was accepted and is kept,
and the lease is that of the Reply to the Request that answered it. -/
structure Grants (s : Session τ) (advertise reply : Message) : Prop where
  accepted_eq : s.accepted .obtain = [advertise, reply]
  state_eq : (s.after .obtain).state = .bound
  advertise_eq : (s.after .obtain).advertise = some advertise
  server : NamesServer (some advertise)
  lease_eq : ∃ now, Lease.ofReply reply now = .ok (s.after .obtain).lease

/-- A call keeps the lease, and keeps the Advertise unless it accepted another. -/
def Keeps (s : Session τ) (c : Call) : Prop :=
  (s.after c).lease = s.lease ∧
    (s.after c).advertise = (lastAdvertise? (s.accepted c)).or s.advertise

theorem solicit_keeps (s : Session τ) {given : Option Message}
    (hp : (Call.solicit given).IsProper) : s.Keeps (.solicit given) := by
  rcases s.solicit_standing given hp with ⟨fault, ho, hs⟩ | ⟨round, ho, htype, hs⟩
  · -- nothing was accepted
    refine ⟨congrArg Standing.lease hs, ?_⟩
    rw [accepted, ho]
    exact congrArg Standing.advertise hs
  · -- what was accepted is an Advertise, and is kept
    refine ⟨congrArg Standing.lease hs, ?_⟩
    rw [accepted, ho, receivedIn, lastAdvertise?_singleton htype]
    exact congrArg Standing.advertise hs

theorem request_keeps (s : Session τ) (advertise : Option Message) :
    s.Keeps (.request advertise) := by
  rcases s.request_standing advertise with ⟨_, ho, hs⟩ | ⟨_, ho, hs⟩ | ⟨round, ho, htype, hs⟩
  · refine ⟨congrArg Standing.lease hs, ?_⟩
    rw [accepted, ho]
    exact congrArg Standing.advertise hs
  · refine ⟨congrArg Standing.lease hs, ?_⟩
    rw [accepted, ho]
    exact congrArg Standing.advertise hs
  · -- what was accepted is a Reply, which leaves the Advertise alone
    refine ⟨congrArg Standing.lease hs, ?_⟩
    rw [accepted, ho, receivedIn, lastAdvertise?_of_reply htype]
    exact congrArg Standing.advertise hs

/-- A release forgets the lease, or nothing was accepted and both are kept. -/
theorem release_cases (s : Session τ) :
    (s.after .release).lease = .empty ∨ s.Keeps .release := by
  obtain ⟨hlease, hadvertise⟩ := giveBack_kept { s with error := none }
  rcases hg : { s with error := none }.giveBack with ⟨fault | round, s₁⟩
  · -- a Release that was stopped had no answer
    right
    rw [hg] at hlease hadvertise
    obtain ⟨hlease', hadvertise'⟩ := s₁.stoppedBy_kept fault
    rw [Keeps, after, accepted, release_of_error hg, hg]
    exact ⟨hlease'.trans hlease, hadvertise'.trans hadvertise⟩
  · left
    obtain ⟨journal, hrelease⟩ := release_of_reply hg
    rw [after, hrelease]

/-- Once the Solicit is answered, the Advertise is kept, and the Request decides about the lease. -/
theorem obtain_cases_of_answered {s s₁ : Session τ} {round : Round}
    (hr : { s with error := none }.solicit none = (.ok round, s₁))
    (htype : round.received.type = .advertise) (hwork : s.AtWork s₁)
    (hadvertise : s₁.advertise = some round.received) :
    (∃ advertise reply, s.Grants advertise reply) ∨ s.Keeps .obtain := by
  have hwork' := hwork.request (some round.received)
  have hkept := (s₁.request_advertise (some round.received)).trans hadvertise
  have hrequest := s₁.request_standing (some round.received)
  rcases hr' : s₁.request (some round.received) with ⟨fault | round', s₂⟩
  · -- the Request is stopped
    right
    rw [hr'] at hwork' hkept
    have haccepted : s.accepted .obtain = [round.received] := by
      simp only [accepted, hr, hr', receivedIn]
    obtain ⟨hlease, hsame⟩ := s₂.stoppedBy_kept fault
    rw [Keeps, haccepted, lastAdvertise?_singleton htype, after,
      obtain_of_error (negotiate_of_request_error hr hr')]
    exact ⟨hlease.trans hwork'.lease_eq, hsame.trans hkept⟩
  · rw [hr'] at hwork' hkept hrequest
    rcases hrequest with ⟨_, hfault, -⟩ | ⟨_, hfault, -⟩ | ⟨_, hround, htype', -⟩
    · cases hfault
    · cases hfault
    obtain rfl := Except.ok.inj hround
    have haccepted : s.accepted .obtain = [round.received, round'.received] := by
      simp only [accepted, hr, hr', receivedIn]
    cases hl : Lease.ofReply round'.received (Transport.now s₂.transport) with
    | error fault =>
      -- the Reply grants no lease
      right
      have hlast : lastAdvertise? [round.received, round'.received] = some round.received := by
        rw [← List.singleton_append, lastAdvertise?_append, lastAdvertise?_of_reply htype',
          lastAdvertise?_singleton htype, Option.none_or]
      rw [Keeps, haccepted, hlast, after, obtain_of_reply (negotiate_of_reply hr hr'),
        bind_of_fault hl]
      exact ⟨hwork'.lease_eq, hkept⟩
    | ok lease =>
      left
      obtain ⟨journal, hbind⟩ := bind_of_lease hl
      have hafter : s.after .obtain = { s₂ with lease, state := .bound, journal } := by
        rw [after, obtain_of_reply (negotiate_of_reply hr hr'), hbind]
      -- a Request was built, so the Advertise names a server
      have hserver : NamesServer (some round.received) := by
        by_contra hnone
        obtain ⟨cause, hcause⟩ := exists_serverOf_error hnone
        rw [request_of_unnamed hcause] at hr'
        cases hr'
      exact ⟨round.received, round'.received, haccepted, by rw [hafter],
        by rw [hafter]; exact hkept, hserver, _, by rw [hafter]; exact hl⟩

/-- Obtaining grants a lease, or it keeps the one there was. -/
theorem obtain_cases (s : Session τ) :
    (∃ advertise reply, s.Grants advertise reply) ∨ s.Keeps .obtain := by
  have hwork := s.solicit_atWork
  have hsolicit := solicit_standing { s with error := none } none trivial
  rcases hr : { s with error := none }.solicit none with ⟨outcome, s₁⟩
  rw [hr] at hwork hsolicit
  rcases hsolicit with ⟨fault, rfl, hs⟩ | ⟨round, rfl, htype, hs⟩
  · -- the Solicit is stopped, and nothing was accepted
    right
    have haccepted : s.accepted .obtain = [] := by simp only [accepted, hr]
    obtain ⟨hlease, hsame⟩ := s₁.stoppedBy_kept fault
    rw [Keeps, haccepted, after, obtain_of_error (negotiate_of_solicit_error hr)]
    exact ⟨hlease.trans hwork.lease_eq, hsame.trans (congrArg Standing.advertise hs)⟩
  · exact obtain_cases_of_answered hr htype hwork (congrArg Standing.advertise hs)

/-- **What a call does to lease and Advertise.** -/
theorem after_lease_cases (s : Session τ) (c : Call) (hp : c.IsProper) :
    (s.after c).lease = .empty ∨
      (c = .obtain ∧ ∃ advertise reply, s.Grants advertise reply) ∨ s.Keeps c := by
  cases c with
  | solicit given => exact .inr (.inr (s.solicit_keeps hp))
  | request advertise => exact .inr (.inr (s.request_keeps advertise))
  | obtain => exact .inr (s.obtain_cases.imp_left fun h => ⟨rfl, h⟩)
  | release => exact s.release_cases.imp_right .inr

/-! ### Where the lease of a run comes from -/

/-- **How a lease was granted in a run**: `GrantedAt s₀ s₁ s g later` says that a run from `s₀` to
`s` has come by `s₁`, where obtaining has granted the lease that `s` has, with the Advertise `g`;
and that `later` was accepted since, which has left the last Advertise that was accepted. -/
structure GrantedAt (s₀ s₁ s : Session τ) (g : Message) (later : List Message) : Prop where
  before : ∃ heard, Reached s₀ s₁ heard
  grants : ∃ reply, s₁.Grants g reply
  since : Reached (s₁.after .obtain) s later
  lease_eq : s.lease = (s₁.after .obtain).lease
  advertise_eq : s.advertise = some ((lastAdvertise? later).getD g)

variable {s₀ s₁ s : Session τ} {g : Message} {heard later : List Message}

/-- What is kept beside it is an Advertise. -/
theorem GrantedAt.type_eq (h : GrantedAt s₀ s₁ s g later) :
    ((lastAdvertise? later).getD g).type = .advertise := by
  cases hlast : lastAdvertise? later with
  | some a => exact type_of_lastAdvertise? hlast
  | none =>
    obtain ⟨reply, hgrants⟩ := h.grants
    obtain ⟨_, ha, htype, -⟩ := hgrants.server
    cases ha
    exact htype

/-- The client can be named, since the lease was granted to it. -/
theorem GrantedAt.duid_lt (h : GrantedAt s₀ s₁ s g later) : s.duid.length < 0x10000 := by
  obtain ⟨reply, hgrants⟩ := h.grants
  have hsetup := (reached_setup h.since).trans (s₁.after_setup .obtain)
  rw [show s.duid = s₁.duid from congrArg Setup.duid hsetup]
  exact duid_of_accepted (by rw [hgrants.accepted_eq]; exact List.cons_ne_nil _ _)

/-- A call that keeps the lease keeps where it comes from. -/
theorem GrantedAt.call (h : GrantedAt s₀ s₁ s g later) {c : Call} (hp : c.IsProper)
    (hkeeps : s.Keeps c) : GrantedAt s₀ s₁ (s.after c) g (later ++ s.accepted c) where
  before := h.before
  grants := h.grants
  since := .call c hp h.since
  lease_eq := hkeeps.1.trans h.lease_eq
  advertise_eq := by
    rw [hkeeps.2, h.advertise_eq, lastAdvertise?_append]
    -- what the call accepted comes before what was accepted earlier
    cases lastAdvertise? (s.accepted c) <;> rfl

/-- **A lease that a run has was granted in it.** -/
theorem reached_granted (h₀ : s₀.lease = .empty) (h : Reached s₀ s heard) :
    s.lease = .empty ∨ ∃ s₁ g later, GrantedAt s₀ s₁ s g later := by
  -- the induction is on the run: a call that grants a lease starts the account anew
  induction h with
  | start => exact .inl h₀
  | @call s heard c proper before ih =>
    rcases s.after_lease_cases c proper with hempty | ⟨rfl, g, reply, hgrants⟩ | hkeeps
    · exact .inl hempty
    · -- a lease was just granted, and nothing was accepted since
      exact .inr ⟨s, g, [], ⟨heard, before⟩, ⟨reply, hgrants⟩, .start, rfl, hgrants.advertise_eq⟩
    · rcases ih with hempty | ⟨s₁, g, later, hgranted⟩
      · exact .inl (hkeeps.1.trans hempty)
      · exact .inr ⟨s₁, g, _, hgranted.call proper hkeeps⟩
  | meanwhile transport journal _ ih =>
    rcases ih with hempty | ⟨s₁, g, later, hgranted⟩
    · exact .inl hempty
    · exact .inr ⟨s₁, g, later, hgranted.before, hgranted.grants,
        .meanwhile transport journal hgranted.since, hgranted.lease_eq, hgranted.advertise_eq⟩

end Calls

/-! ### Giving back -/

variable [Recording τ]

/-- A Release to nobody is not sent, and the release fails. -/
theorem release_of_unnamed {s : Session τ} {a : Message} {cause : AdvertiseError}
    (hkept : s.advertise = some a) (h : Message.serverOf (some a) = .error cause) :
    s.sentBy .release = [] ∧ s.release.1 = .error (.negotiation (.codec (.advertise cause))) := by
  have hp := prepareAnswer_of_unnamed h { s with error := none } .release
  have hgive := giveBack_of_unanswerable (s := { s with error := none }) hkept hp
  constructor
  · rw [sentBy_eq, prepared, hkept, answers_of_unnamed h, List.flatMap_nil]
  · rw [release_of_error hgive]

/-- **To whom a lease is given back.** Whatever is called on a client, in whatever order, and
whatever its transport does: a lease that is held was granted in the run, with an Advertise that
names a server, and an Advertise is kept, which is that one or else the last one that was accepted
since. If the one that is kept names a server, a release hands over one datagram, a Release to that
server, whose identifier is copied. If it names none, a release hands over nothing and fails. -/
theorem reached_releases {c : ClientConfig} {identity : Identity} {random : RandomIds}
    {transport : τ} {s₀ s : Session τ} {heard : List Message}
    (h₀ : start c identity random transport = .ok s₀) (h : Reached s₀ s heard)
    (hheld : s.lease.isHeld) :
    ∃ s₁ g later a, GrantedAt s₀ s₁ s g later ∧ NamesServer (some g) ∧
      a = (lastAdvertise? later).getD g ∧ s.advertise = some a ∧
      (∀ server, a.firstOption? .serverId = some server → s.sentBy .release
        = [8 :: Octets.ofNat 3 (s.outbox.nextId .drawn).val ++
          ((Wire.DhcpOption.clientId s.duid).octets ++ (server.octets ++ a.asking))]) ∧
      (a.firstOption? .serverId = none → s.sentBy .release = [] ∧
        s.release.1 = .error (.negotiation (.codec (.advertise .noServer)))) := by
  have hempty : s₀.lease = .empty ∧ s₀.advertise = none := by
    obtain ⟨_, -, rfl⟩ := start_eq h₀
    exact ⟨rfl, rfl⟩
  obtain ⟨s₁, g, later, hgranted⟩ :=
    (reached_granted hempty.1 h).resolve_left (Lease.ne_empty_of_isHeld hheld)
  obtain ⟨reply, hgrants⟩ := hgranted.grants
  have hkept := hgranted.advertise_eq
  have hserverOf := Message.serverOf_of_advertise hgranted.type_eq
  refine ⟨s₁, g, later, _, hgranted, hgrants.server, rfl, hkept, ?_, ?_⟩
  · intro server hserver
    rw [hserver, Option.elim_some] at hserverOf
    -- what is kept was read, and the client was named when the lease was granted
    have hread := reached_keepsWritable hempty.2 h _ hkept
    rw [sentBy_release hkept hserverOf, Message.written_answer hread hserverOf hgranted.duid_lt,
      Message.octets_answer]
    rfl
  · intro hnone
    rw [hnone, Option.elim_none] at hserverOf
    exact release_of_unnamed hkept hserverOf

/-- A session that a network of 56 bits was delegated to, and whose transport is then to deliver
something else. -/
def renewalFacing (deliveries : List Delivery) : Session Script :=
  { (smallNegotiation 56).after .obtain with transport := Script.playing deliveries, journal := [] }

theorem reached_renewalFacing (deliveries : List Delivery) :
    Reached (smallNegotiation 56) (renewalFacing deliveries)
      ((smallNegotiation 56).accepted .obtain) :=
  .meanwhile (Script.playing deliveries) [] (.call .obtain trivial .start)

/-- The Advertise of another server, which offers nothing. -/
def otherOffer : Message := .messageOf .advertise default [[0, 2, 0, 4, 0, 3, 0, 2]]

/-- The session solicits, and the other server answers. The lease is given back to that server. -/
theorem reached_releases_of_other_server :
    ∃ s heard,
      start { transactionIds := [0x11, 0x22] } ⟨none, [0, 3, 0, 1], []⟩ []
        (smallNegotiation 56).transport = .ok (smallNegotiation 56) ∧
      Reached (smallNegotiation 56) s heard ∧ s.lease.isHeld ∧
      s.sentBy .release = [[8, 0, 0, 0, 0, 1, 0, 4, 0, 3, 0, 1, 0, 2, 0, 4, 0, 3, 0, 2,
        0, 8, 0, 2, 0, 0, 0, 6, 0, 4, 0, 23, 0, 24]] := by
  have h := Reached.call (.solicit none) trivial
    (reached_renewalFacing [.datagram otherOffer.octets])
  have h₀ := start_small [.datagram (smallAdvertise 0x11), .datagram (smallReply 0x22 56)]
  have hheld : ((renewalFacing [.datagram otherOffer.octets]).after (.solicit none)).lease.isHeld :=
    by decide +kernel
  have hother : ((renewalFacing [.datagram otherOffer.octets]).after (.solicit none)).advertise
      = some otherOffer := by decide +kernel
  obtain ⟨s₁, g, later, a, -, -, -, hkept, hreleases, -⟩ := reached_releases h₀ h hheld
  obtain rfl := Option.some.inj (hother.symm.trans hkept)
  have hsent := hreleases (.ofRead [0, 2, 0, 4, 0, 3, 0, 2]) rfl
  exact ⟨_, _, h₀, h, hheld, hsent.trans (by decide +kernel)⟩

/-- The session renews its lease, and an Advertise answers that names no server. The renewal is
stopped and the lease still held, but the Release that would give it back cannot be built, and
nothing is sent. -/
theorem release_unsent_of_unnamed_renewal :
    ∃ s heard,
      start { transactionIds := [0x11, 0x22] } ⟨none, [0, 3, 0, 1], []⟩ []
        (smallNegotiation 56).transport = .ok (smallNegotiation 56) ∧
      Reached (smallNegotiation 56) s heard ∧ s.lease.isHeld ∧ s.sentBy .release = [] := by
  have h := Reached.call .obtain trivial (reached_renewalFacing [.datagram [2, 0, 0, 0]])
  exact ⟨_, _, start_small _, h, by decide +kernel, by decide +kernel⟩

end Session

end PrefixDelegation
