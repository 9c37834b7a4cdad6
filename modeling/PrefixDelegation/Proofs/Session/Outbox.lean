import PrefixDelegation.Proofs.Exchange.Recording
import PrefixDelegation.Proofs.Session.Rounds
import PrefixDelegation.Proofs.Session.Writing

/-!
# What a session hands over

A session stamps every message before it hands it over to be sent. What it stamps from and what it
has handed over is its *outbox*: the configured transaction identifiers that are left, the random
ones still to be drawn, and the record of its transport. Nothing else decides which identifier the
next message gets (`Outbox.nextId`), and a message that is prepared uses up one configured identifier
if one is left, and one random identifier if it was built for the occasion (`Outbox.push`). It does
so before it is written, so also when it turns out that it cannot be.

An operation hands over its message once it is prepared, if it can be written, whatever comes of the
exchange (`Session.solicit_outbox`, `Session.request_outbox`, `Session.giveBack_outbox`), and one that
cannot prepare its message touches nothing. `Session.after_handsOver` puts this together: the messages
that a call prepares (`Session.prepared`) are of one origin, and the call leaves the outbox as they
leave it. What the transport is handed is what can be written of them (`Session.sentBy_eq`).
-/

namespace PrefixDelegation

/-! ### Where identifiers come from -/

/-- Where a message has its transaction identifier from before it is stamped. -/
inductive Origin where
  /-- It was drawn when the message was built. -/
  | drawn
  /-- The message was handed in with it. -/
  | given (xid : TransactionId)
deriving DecidableEq

namespace Origin

/-- The identifier that a message has by itself, given the random ones still to be drawn. -/
def own (random : RandomIds) : Origin → TransactionId
  | .drawn => random.draw.1
  | .given xid => xid

/-- The random identifiers that are left behind a message. -/
def left (random : RandomIds) : Origin → RandomIds
  | .drawn => random.draw.2
  | .given _ => random

/-- The origin of a Solicit: it was handed in, or it is built. -/
def ofSolicit : Option Message → Origin
  | some m => .given m.xid
  | none => .drawn

end Origin

/-- The origin of the messages that a call prepares. -/
def Call.origin : Call → Origin
  | .solicit given => .ofSolicit given
  | .request _ | .obtain | .release => .drawn

/-- What is handed in with a call can be written. -/
def Call.IsWritable : Call → Prop
  | .solicit (some m) => m.IsWritable
  | .request (some a) => a.IsWritable
  | _ => True

/-- A draw takes the identifier at the front, and zero when there is none. -/
theorem RandomIds.draw_eq (random : RandomIds) :
    random.draw = (random.head?.getD default, random.tail) := by
  cases random with
  | nil => rfl
  | cons id rest => rfl

/-! ### Outboxes -/

/-- What a session stamps its messages from, and what it has handed over to be sent. -/
structure Outbox where
  /-- The configured identifiers that are left. -/
  queue : List TransactionId
  random : RandomIds
  sent : List Octets

namespace Outbox

variable (b : Outbox) (o : Origin)

/-- The identifier that the next message gets: a configured one if one is left, else its own. -/
def nextId : TransactionId := b.queue.head?.getD (o.own b.random)

/-- A message was stamped. -/
def stamped : Outbox := { b with queue := b.queue.tail, random := o.left b.random }

/-- A message was stamped, and handed over if it can be written. -/
def push (m : Message) : Outbox := { b.stamped o with sent := b.sent ++ m.written }

/-- **What a call does to an outbox**: `b.HandsOver o messages b'` says that these messages of one
origin were stamped, each with the identifier that was next, and handed over as far as they can be
written. -/
inductive HandsOver (o : Origin) : Outbox → List Message → Outbox → Prop
  /-- There was no message. -/
  | nothing (b : Outbox) : HandsOver o b [] b
  /-- There was one, and then others. -/
  | message {b b' : Outbox} {rest : List Message} (m : Message) (xid_eq : m.xid = b.nextId o)
      (behind : HandsOver o (b.push o m) rest b') : HandsOver o b (m :: rest) b'

variable {b o} {b' b'' : Outbox} {messages more : List Message}

/-- What is handed over goes behind the record. -/
theorem HandsOver.sent_eq (h : b.HandsOver o messages b') :
    b'.sent = b.sent ++ messages.flatMap Message.written := by
  induction h with
  | nothing b => rw [List.flatMap_nil, List.append_nil]
  | message m _ _ ih => rw [ih, push, List.append_assoc, List.flatMap_cons]

/-- There is one message. -/
theorem HandsOver.single {m : Message} (h : m.xid = b.nextId o) :
    b.HandsOver o [m] (b.push o m) :=
  .message m h (.nothing _)

/-- There are some messages, and then others. -/
theorem HandsOver.append (h : b.HandsOver o messages b') (h' : b'.HandsOver o more b'') :
    b.HandsOver o (messages ++ more) b'' := by
  induction h with
  | nothing b => exact h'
  | message m xid_eq _ ih => exact .message m xid_eq (ih h')

end Outbox

/-- The message that answers an Advertise, as it is sent. -/
def Message.answer (type : MessageType) (xid : TransactionId) (duid : Octets)
    (server : Wire.DhcpOption) (advertise : Message) : Message :=
  .compose type xid ([.clientId duid, server, .elapsedTime, .optionRequest] ++
    (advertise.firstOption? delegation).toList)

/-- It is built as a Request, the offer goes behind the options that every answer has, and the type is
set last. -/
theorem Message.withOffer_request (type : MessageType) (xid : TransactionId) (duid : Octets)
    (server : Wire.DhcpOption) (a : Message) :
    withOffer { request duid server xid with type } a = answer type xid duid server a := by
  unfold withOffer answer
  cases a.firstOption? delegation <;> rfl

/-- An answer that can be written names its client. -/
theorem Message.duid_of_isWritable_answer {type : MessageType} {xid : TransactionId} {duid : Octets}
    {server : Wire.DhcpOption} {a : Message} (h : (answer type xid duid server a).IsWritable) :
    duid.length < 0x10000 :=
  Wire.DhcpOption.isWritable_clientId.mp (isWritable_compose.mp h _ List.mem_cons_self)

/-- If the Advertise was read, the client decides alone. -/
theorem Message.isWritable_answer {type : MessageType} {xid : TransactionId} {duid : Octets}
    {server : Wire.DhcpOption} {a : Message} (ha : a.IsWritable)
    (h : Message.serverOf (some a) = .ok server) :
    (answer type xid duid server a).IsWritable ↔ duid.length < 0x10000 := by
  rw [← withOffer_request]
  have hrequest : (request duid server xid).IsWritable ↔ duid.length < 0x10000 :=
    isWritable_request (ha.serverOf h)
  exact ha.withOffer.trans hrequest

/-- And then it is written. -/
theorem Message.written_answer {duid : Octets} {server : Wire.DhcpOption} {a : Message}
    (ha : a.IsWritable) (h : Message.serverOf (some a) = .ok server) (hduid : duid.length < 0x10000)
    (type : MessageType) (xid : TransactionId) :
    (answer type xid duid server a).written = [(answer type xid duid server a).octets] :=
  ((isWritable_answer ha h).mpr hduid).written_eq

/-- An Advertise that names a server is there. -/
theorem Message.exists_of_serverOf {advertise : Option Message} {server : Wire.DhcpOption}
    (h : Message.serverOf advertise = .ok server) : ∃ a, advertise = some a := by
  cases advertise with
  | none => cases h
  | some a => exact ⟨a, rfl⟩

namespace Session

variable {τ : Type} [Recording τ]

/-- The outbox of a session. -/
def outbox (s : Session τ) : Outbox :=
  ⟨s.sequencer.queue, s.random, Recording.sent s.transport⟩

/-! ### Stamping -/

/-- A message is stamped with the configured identifier that is next, or it keeps its own. -/
theorem stamp_eq (s : Session τ) (m : Message) :
    (s.stamp m).1 = { m with xid := s.outbox.queue.head?.getD m.xid } ∧
      (s.stamp m).2.outbox = { s.outbox with queue := s.outbox.queue.tail } := by
  unfold stamp Sequencer.take outbox
  rcases s.sequencer with ⟨_ | ⟨id, rest⟩, lastSource⟩
  · exact ⟨rfl, rfl⟩
  · exact ⟨rfl, rfl⟩

/-- Asking for a delegation keeps the transaction identifier of a message. -/
theorem askForDelegation_xid (m : Message) : (askForDelegation m).xid = m.xid := by
  unfold askForDelegation Message.addOption
  split
  · rfl
  · split <;> rfl

/-- A Solicit is prepared with the identifier that is next. -/
theorem prepareSolicit_eq (s : Session τ) (given : Option Message) :
    (s.prepareSolicit given).1.xid = s.outbox.nextId (.ofSolicit given) ∧
      (s.prepareSolicit given).2.outbox = s.outbox.stamped (.ofSolicit given) := by
  cases given with
  | some m =>
    obtain ⟨hm, hb⟩ := s.stamp_eq (askForDelegation m)
    refine ⟨?_, hb⟩
    rw [prepareSolicit, hm, askForDelegation_xid]
    rfl
  | none =>
    obtain ⟨hm, hb⟩ := s.draw.2.stamp_eq (askForDelegation (.solicit s.duid s.draw.1))
    refine ⟨?_, hb⟩
    change (s.draw.2.stamp (askForDelegation (.solicit s.duid s.draw.1))).1.xid = _
    rw [hm, askForDelegation_xid]
    rfl

omit [Recording τ] in
/-- An answer names client and server, and asks for what the Advertise offers. It is built with an
identifier that was drawn, and then stamped. -/
theorem prepareAnswer_of_server {a : Message} {server : Wire.DhcpOption}
    (h : Message.serverOf (some a) = .ok server) (s : Session τ) (type : MessageType) :
    s.prepareAnswer (some a) type
      = (.ok (s.draw.2.stamp (Message.answer type s.draw.1 s.duid server a)).1,
        (s.draw.2.stamp (Message.answer type s.draw.1 s.duid server a)).2) := by
  rw [← Message.withOffer_request]
  unfold prepareAnswer
  rw [h]
  rfl

/-- So it is prepared with the identifier that is next. -/
theorem prepareAnswer_eq {a : Message} {server : Wire.DhcpOption}
    (h : Message.serverOf (some a) = .ok server) (s : Session τ) (type : MessageType) :
    ∃ s₁, s.prepareAnswer (some a) type
        = (.ok (Message.answer type (s.outbox.nextId .drawn) s.duid server a), s₁) ∧
      s₁.outbox = s.outbox.stamped .drawn := by
  have hprepare := prepareAnswer_of_server h s type
  obtain ⟨hm, hb⟩ := s.draw.2.stamp_eq (Message.answer type s.draw.1 s.duid server a)
  rw [hm] at hprepare
  exact ⟨_, hprepare, hb⟩

/-! ### What each operation hands over -/

/-- An exchange hands over its message, if it can be written. -/
theorem exchange_outbox (s : Session τ) (state : SessionState) (m : Message) :
    (s.exchange state m).2.outbox = { s.outbox with sent := s.outbox.sent ++ m.written } := by
  have hsent := Recording.sent_exchange s.engine m .none s.transport
  unfold outbox
  rw [← hsent]
  rfl

/-- A Solicit is handed over, whatever comes of it. -/
theorem solicit_outbox (s : Session τ) (given : Option Message) :
    (s.solicit given).2.outbox
      = s.outbox.push (.ofSolicit given) (s.prepareSolicit given).1 := by
  obtain ⟨-, hb⟩ := s.prepareSolicit_eq given
  rcases hp : s.prepareSolicit given with ⟨sent, s₁⟩
  rw [hp] at hb
  -- stamping has moved the identifiers, and the exchange moves the record
  have hx := s₁.exchange_outbox .soliciting sent
  rw [hb] at hx
  rcases hr : s₁.exchange .soliciting sent with ⟨fault | received, s₂⟩
  · rw [hr] at hx
    rw [solicit_of_error hp hr]
    exact hx
  · rw [hr] at hx
    rw [solicit_of_reply hp hr]
    exact hx

section Answer

variable {a : Message} {server : Wire.DhcpOption}

/-- A Request that can be built is handed over, whatever comes of it. -/
theorem request_outbox (h : Message.serverOf (some a) = .ok server) (s : Session τ) :
    (s.request (some a)).2.outbox = s.outbox.push .drawn
      (Message.answer .request (s.outbox.nextId .drawn) s.duid server a) := by
  obtain ⟨s₁, hp, hb⟩ := prepareAnswer_eq h s .request
  -- as with a Solicit, what comes of the exchange makes no difference
  have hx := s₁.exchange_outbox .requesting
    (Message.answer .request (s.outbox.nextId .drawn) s.duid server a)
  rw [hb] at hx
  rcases hr : s₁.exchange .requesting _ with ⟨fault | received, s₂⟩
  · rw [hr] at hx
    rw [request_of_error hp hr]
    exact hx
  · rw [hr] at hx
    rw [request_of_reply hp hr]
    exact hx

/-- So is a Release. -/
theorem giveBack_outbox {s : Session τ} (hkept : s.advertise = some a)
    (h : Message.serverOf (some a) = .ok server) :
    s.giveBack.2.outbox = s.outbox.push .drawn
      (Message.answer .release (s.outbox.nextId .drawn) s.duid server a) := by
  obtain ⟨s₁, hp, hb⟩ := prepareAnswer_eq h s .release
  have hx := s₁.exchange_outbox .releasing
    (Message.answer .release (s.outbox.nextId .drawn) s.duid server a)
  rw [hb] at hx
  rw [giveBack_of_sent hkept hp]
  exact hx

end Answer

/-- A Release to nobody cannot be built, and the session stays as it was. -/
theorem giveBack_of_unnamed {s : Session τ} {cause : AdvertiseError}
    (h : Message.serverOf s.advertise = .error cause) :
    ∃ e, s.giveBack = (.error (.negotiation e), s) := by
  cases hkept : s.advertise with
  | none => exact ⟨_, giveBack_of_none hkept⟩
  | some a =>
    rw [hkept] at h
    exact ⟨_, giveBack_of_unanswerable hkept (prepareAnswer_of_unnamed h s .release)⟩

/-! ### What each call hands over -/

/-- A session that is stopped hands nothing over. -/
theorem stoppedBy_outbox (s : Session τ) (fault : Fault) :
    (s.stoppedBy fault).2.outbox = s.outbox := by
  cases fault <;> rfl

/-- Neither does one that keeps a lease. -/
theorem bind_outbox (s : Session τ) (reply : Message) : (s.bind reply).2.outbox = s.outbox := by
  cases hl : Lease.ofReply reply (Transport.now s.transport) with
  | error fault => rw [bind_of_fault hl]
  | ok lease =>
    obtain ⟨journal, hbind⟩ := bind_of_lease hl
    rw [hbind]
    rfl

/-- What a negotiation hands over is all that obtaining a lease hands over. -/
theorem obtain_outbox (s : Session τ) :
    s.obtain.2.outbox = { s with error := none }.negotiate.2.outbox := by
  rcases hn : { s with error := none }.negotiate with ⟨fault | reply, s₁⟩
  · rw [obtain_of_error hn, hn]
    exact s₁.stoppedBy_outbox fault
  · rw [obtain_of_reply hn, hn]
    exact s₁.bind_outbox reply

/-- What giving back hands over is all that a release hands over. -/
theorem release_outbox (s : Session τ) :
    s.release.2.outbox = { s with error := none }.giveBack.2.outbox := by
  rcases hg : { s with error := none }.giveBack with ⟨fault | round, s₁⟩
  · rw [release_of_error hg, hg]
    exact s₁.stoppedBy_outbox fault
  · obtain ⟨journal, hrelease⟩ := release_of_reply hg
    rw [hrelease, hg]
    rfl

/-! Each operation hands over what it prepares, one message after the other. -/

/-- The answer to an Advertise, if one can be built. -/
def answers (s : Session τ) (advertise : Option Message) (type : MessageType) : List Message :=
  (s.prepareAnswer advertise type).1.toOption.toList

/-- The messages of a negotiation: a Solicit, and a Request if the Solicit is answered. -/
def negotiates (s : Session τ) : List Message :=
  (s.prepareSolicit none).1 ::
    match s.solicit none with
    | (.error _, _) => []
    | (.ok round, s) => s.answers (some round.received) .request

/-- **The messages that a call prepares**, in order. -/
def prepared (s : Session τ) : Call → List Message
  | .solicit given => [(s.prepareSolicit given).1]
  | .request advertise => s.answers advertise .request
  | .obtain => { s with error := none }.negotiates
  | .release => s.answers s.advertise .release

/-- A negotiation prepares what a Solicit prepares, and then what a Request does, if it comes to
that. -/
theorem negotiates_cases (s : Session τ) :
    s.negotiates = s.prepared (.solicit none) ∨ ∃ advertise, s.negotiates
      = s.prepared (.solicit none) ++ (s.after (.solicit none)).prepared (.request advertise) := by
  rw [negotiates]
  rcases hr : s.solicit none with ⟨fault | round, s₁⟩
  · exact .inl rfl
  · refine .inr ⟨some round.received, ?_⟩
    rw [after, hr]
    rfl

omit [Recording τ] in
/-- No answer can be built to what names no server. -/
theorem answers_of_unnamed {advertise : Option Message} {cause : AdvertiseError}
    (h : Message.serverOf advertise = .error cause) (s : Session τ) (type : MessageType) :
    s.answers advertise type = [] := by
  rw [answers, prepareAnswer_of_unnamed h]
  rfl

/-- To what names one, an answer can be built. -/
theorem answers_of_server {a : Message} {server : Wire.DhcpOption}
    (h : Message.serverOf (some a) = .ok server) (s : Session τ) (type : MessageType) :
    s.answers (some a) type
      = [Message.answer type (s.outbox.nextId .drawn) s.duid server a] := by
  obtain ⟨s₁, hp, -⟩ := prepareAnswer_eq h s type
  rw [answers, hp]
  rfl

theorem solicit_handsOver (s : Session τ) (given : Option Message) :
    s.outbox.HandsOver (.ofSolicit given) [(s.prepareSolicit given).1]
      (s.solicit given).2.outbox := by
  obtain ⟨hxid, -⟩ := s.prepareSolicit_eq given
  rw [solicit_outbox]
  exact .single hxid

theorem request_handsOver (s : Session τ) (advertise : Option Message) :
    s.outbox.HandsOver .drawn (s.answers advertise .request) (s.request advertise).2.outbox := by
  cases hserver : Message.serverOf advertise with
  | error cause =>
    rw [answers_of_unnamed hserver, request_of_unnamed hserver]
    exact .nothing _
  | ok server =>
    obtain ⟨a, rfl⟩ := Message.exists_of_serverOf hserver
    rw [answers_of_server hserver, request_outbox hserver]
    exact .single rfl

theorem negotiate_handsOver (s : Session τ) :
    s.outbox.HandsOver .drawn s.negotiates s.negotiate.2.outbox := by
  have hsolicit := s.solicit_handsOver none
  rw [negotiates]
  rcases hr : s.solicit none with ⟨fault | round, s₁⟩
  · rw [hr] at hsolicit
    rw [negotiate_of_solicit_error hr]
    exact hsolicit
  · rw [hr] at hsolicit
    -- the Request goes on where the Solicit has left the outbox
    have hrequest := s₁.request_handsOver (some round.received)
    refine hsolicit.append ?_
    rcases hr' : s₁.request (some round.received) with ⟨fault | round', s₂⟩
    · rw [hr'] at hrequest
      rw [negotiate_of_request_error hr hr']
      exact hrequest
    · rw [hr'] at hrequest
      rw [negotiate_of_reply hr hr']
      exact hrequest

theorem giveBack_handsOver (s : Session τ) :
    s.outbox.HandsOver .drawn (s.answers s.advertise .release) s.giveBack.2.outbox := by
  cases hserver : Message.serverOf s.advertise with
  | error cause =>
    obtain ⟨e, hgive⟩ := giveBack_of_unnamed hserver
    rw [answers_of_unnamed hserver, hgive]
    exact .nothing _
  | ok server =>
    obtain ⟨a, hkept⟩ := Message.exists_of_serverOf hserver
    rw [hkept] at hserver
    rw [hkept, answers_of_server hserver, giveBack_outbox hkept hserver]
    exact .single rfl

/-- The datagrams that a call hands over to be sent, in order. -/
def sentBy (s : Session τ) (c : Call) : List Octets :=
  (s.after c).outbox.sent.drop s.outbox.sent.length

/-- What goes behind the record in a call is what the call hands over. -/
theorem sentBy_of_sent {s : Session τ} {c : Call} {datagrams : List Octets}
    (h : (s.after c).outbox.sent = s.outbox.sent ++ datagrams) : s.sentBy c = datagrams := by
  rw [sentBy, h, List.drop_left]

/-- Whether an error is recorded makes no difference to an answer. -/
theorem answers_with_error (s : Session τ) (error : Option NegotiationError)
    (advertise : Option Message) (type : MessageType) :
    { s with error }.answers advertise type = s.answers advertise type := by
  cases hserver : Message.serverOf advertise with
  | error cause => rw [answers_of_unnamed hserver, answers_of_unnamed hserver]
  | ok server =>
    obtain ⟨a, rfl⟩ := Message.exists_of_serverOf hserver
    rw [answers_of_server hserver, answers_of_server hserver]
    rfl

/-- **What a call does to the outbox** is what the messages do that it prepares. -/
theorem after_handsOver (s : Session τ) (c : Call) :
    s.outbox.HandsOver c.origin (s.prepared c) (s.after c).outbox := by
  cases c with
  | solicit given => exact s.solicit_handsOver given
  | request advertise => exact s.request_handsOver advertise
  | obtain =>
    change s.outbox.HandsOver .drawn _ s.obtain.2.outbox
    rw [obtain_outbox]
    exact negotiate_handsOver { s with error := none }
  | release =>
    have hgive := giveBack_handsOver { s with error := none }
    rw [answers_with_error] at hgive
    change s.outbox.HandsOver .drawn _ s.release.2.outbox
    rw [release_outbox]
    exact hgive

/-- **What a call hands over** is what can be written of the messages that it prepares. -/
theorem sentBy_eq (s : Session τ) (c : Call) :
    s.sentBy c = (s.prepared c).flatMap Message.written :=
  sentBy_of_sent (s.after_handsOver c).sent_eq

/-! ### What can be written of it -/

/-- An answer can be written if the client can be named in it and what it copies was read. -/
theorem isWritable_of_answers {advertise : Option Message} {type : MessageType}
    (hread : ∀ a, advertise = some a → a.IsWritable) (s : Session τ)
    (hduid : s.duid.length < 0x10000) : ∀ m ∈ s.answers advertise type, m.IsWritable := by
  cases hserver : Message.serverOf advertise with
  | error cause =>
    rw [answers_of_unnamed hserver]
    exact fun m hm => absurd hm List.not_mem_nil
  | ok server =>
    obtain ⟨a, rfl⟩ := Message.exists_of_serverOf hserver
    rw [answers_of_server hserver, List.forall_mem_singleton]
    exact (Message.isWritable_answer (hread a rfl) hserver).mpr hduid

/-- So can the messages of a negotiation. -/
theorem isWritable_of_negotiates {s : Session τ} (hduid : s.duid.length < 0x10000) :
    ∀ m ∈ s.negotiates, m.IsWritable := by
  rw [negotiates, List.forall_mem_cons]
  refine ⟨s.isWritable_prepareSolicit.mpr hduid, ?_⟩
  rcases hr : s.solicit none with ⟨fault | round, s₁⟩
  · exact fun m hm => absurd hm List.not_mem_nil
  · obtain ⟨-, hread⟩ := solicit_heard (congrArg Prod.fst hr)
    exact isWritable_of_answers (fun a ha => Option.some.inj ha ▸ hread) s₁ (duid_of_heard hr)

/-- If the client cannot be named, the Solicit is not written, and so it is not answered either. -/
theorem written_of_negotiates {s : Session τ} (hduid : ¬ s.duid.length < 0x10000) :
    s.negotiates.flatMap Message.written = [] := by
  have hnot := mt s.isWritable_prepareSolicit.mp hduid
  rw [negotiates]
  rcases hr : s.solicit none with ⟨fault | round, s₁⟩
  · rw [List.flatMap_singleton, Message.written_of_not_isWritable hnot]
  · exact absurd (solicit_heard (congrArg Prod.fst hr)).1 hnot

/-- Obtaining a lease hands over what it prepares, or nothing if its client cannot be named. -/
theorem sentBy_obtain_cases (s : Session τ) :
    s.sentBy .obtain = (s.prepared .obtain).map Message.octets ∨ s.sentBy .obtain = [] := by
  rw [sentBy_eq]
  by_cases hduid : s.duid.length < 0x10000
  · exact .inl (Message.flatMap_written
      (isWritable_of_negotiates (s := { s with error := none }) hduid))
  · exact .inr (written_of_negotiates (s := { s with error := none }) hduid)

/-! ### The datagram of each message -/

/-- A Solicit is handed over as it was prepared. -/
theorem sentBy_solicit (s : Session τ) (given : Option Message) :
    s.sentBy (.solicit given) = (s.prepareSolicit given).1.written := by
  rw [sentBy_eq]
  exact List.append_nil _

/-- So is a Request, if the Advertise names a server, -/
theorem sentBy_request {a : Message} {server : Wire.DhcpOption}
    (h : Message.serverOf (some a) = .ok server) (s : Session τ) :
    s.sentBy (.request (some a))
      = (Message.answer .request (s.outbox.nextId .drawn) s.duid server a).written := by
  rw [sentBy_eq, prepared, answers_of_server h]
  exact List.append_nil _

/-- and a Release. -/
theorem sentBy_release {s : Session τ} {a : Message} {server : Wire.DhcpOption}
    (hkept : s.advertise = some a) (h : Message.serverOf (some a) = .ok server) :
    s.sentBy .release
      = (Message.answer .release (s.outbox.nextId .drawn) s.duid server a).written := by
  rw [sentBy_eq, prepared, hkept, answers_of_server h]
  exact List.append_nil _

end Session

end PrefixDelegation
