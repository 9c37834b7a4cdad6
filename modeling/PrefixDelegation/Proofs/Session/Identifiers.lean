import PrefixDelegation.Proofs.Sequencer.Conservation
import PrefixDelegation.Proofs.Session.Outbox
import PrefixDelegation.Proofs.Wire.BigEndian

/-!
# Transaction identifiers over whole runs

A client is configured with transaction identifiers, and each of them belongs to one attempt to
send: the first to the first attempt of the run, the next to the next, whatever the calls are and
however the transport fails. Once they are used up, a message keeps the identifier that it has by
itself (`Origin.own`): the one that was drawn when it was built, or the one it was handed in with.
Every message that is built draws one random identifier, also while configured ones are left.

`Session.Ran` says which sessions a run can come to, together with the attempts that were made on
the way. Any call may be made, and a Solicit of any type may be handed in. What the transport is
handed in a call are the attempts of the call, as far as they can be written (`Session.sentBy_eq`).
All of them can, if the identifier of the client has a length that can be declared and what is handed
in can be written; an attempt that cannot be written ends its call, with its identifier used up.

The invariant is `Accounts`: what is left of the configured identifiers is what the attempts have
not used up, what is left of the random ones is what was not drawn for them, and each attempt
carries the identifier that was due. One attempt keeps it (`Accounts.attempt`), so does what a call
prepares (`Accounts.handsOver`), and `Session.ran_identifiers` reads the law of whole runs off it.
-/

namespace PrefixDelegation

/-- An attempt to send: where its message came from, and the message as it was stamped. -/
structure Attempt where
  origin : Origin
  message : Message

/-- The datagram that is handed over in an attempt, if the message can be written. -/
def Attempt.datagram? (a : Attempt) : Option Octets := a.message.encode.toOption

/-- The transaction identifier in a datagram. -/
def xidIn (datagram : Octets) : Nat := Octets.toNat ((datagram.drop 1).take 3)

/-- A message carries its transaction identifier. -/
theorem Message.xidIn_octets (m : Message) : xidIn m.octets = m.xid.val := by
  have hfield : (m.octets.drop 1).take 3 = Octets.ofNat 3 m.xid.val := by
    rw [Message.octets, List.cons_append, List.cons_append, List.drop_one, List.tail_cons,
      List.append_assoc, List.take_left' (Octets.length_ofNat 3 m.xid.val)]
  have hlt : m.xid.val < 256 ^ 3 := m.xid.val_lt
  rw [xidIn, hfield, Octets.toNat_ofNat hlt]

/-- How many of some attempts were made with messages that were built for them. -/
def builtAmong (attempts : List Attempt) : Nat := attempts.countP fun a => a.origin = .drawn

/-- The identifier that is due in an attempt of an origin behind others: the configured one with its
number, if there is one, else the one its message has by itself. -/
def dueId (ids : List TransactionId) (random : RandomIds) (before : List Attempt) (o : Origin) :
    TransactionId :=
  ids[before.length]?.getD (o.own (random.drop (builtAmong before)))

/-! ### The invariant -/

/-- **What the attempts of a run account for**, of the identifiers that it began with. -/
structure Accounts (ids : List TransactionId) (random : RandomIds) (attempts : List Attempt)
    (b : Outbox) : Prop where
  /-- Each attempt has used up one configured identifier, as long as there was one. -/
  queue_eq : b.queue = ids.drop attempts.length
  /-- One random identifier was drawn for each message that was built. -/
  random_eq : b.random = random.drop (builtAmong attempts)
  /-- Each attempt carries the identifier that was due. -/
  xid_eq : ∀ k a, attempts[k]? = some a →
    a.message.xid = dueId ids random (attempts.take k) a.origin

namespace Accounts

variable {ids : List TransactionId} {random : RandomIds} {attempts : List Attempt} {b b' : Outbox}
  {o : Origin}

/-- Without an attempt there is nothing to account for. -/
theorem none (b : Outbox) : Accounts b.queue b.random [] b where
  queue_eq := rfl
  random_eq := rfl
  xid_eq _ _ ha := by cases ha

/-- The identifier that is next is the one that is due. -/
theorem nextId_eq (h : Accounts ids random attempts b) (o : Origin) :
    b.nextId o = dueId ids random attempts o := by
  rw [Outbox.nextId, dueId, h.queue_eq, h.random_eq, List.head?_drop]

/-- What is left of the random identifiers behind one attempt more. -/
theorem left_drop (o : Origin) (m : Message) :
    o.left (random.drop (builtAmong attempts))
      = random.drop (builtAmong (attempts ++ [⟨o, m⟩])) := by
  rw [builtAmong, builtAmong, List.countP_append, List.countP_singleton]
  cases o with
  | drawn =>
    rw [Origin.left, RandomIds.draw_eq, List.tail_drop]
    rfl
  | given xid => rfl

/-- **One attempt keeps the accounts**, if it carries the identifier that was next. -/
theorem attempt (h : Accounts ids random attempts b) {m : Message} (hxid : m.xid = b.nextId o) :
    Accounts ids random (attempts ++ [⟨o, m⟩]) (b.push o m) where
  queue_eq := by
    -- dropping one more, also when there is none left to drop
    have hqueue : (b.push o m).queue = b.queue.tail := rfl
    rw [hqueue, h.queue_eq, List.tail_drop, List.length_append]
    rfl
  random_eq := by
    have hrandom : (b.push o m).random = o.left b.random := rfl
    rw [hrandom, h.random_eq, left_drop]
  xid_eq k a ha := by
    rcases Nat.lt_trichotomy k attempts.length with hlt | rfl | hgt
    · -- an attempt from before, behind the same others
      rw [List.getElem?_append_left hlt] at ha
      rw [List.take_append_of_le_length (Nat.le_of_lt hlt)]
      exact h.xid_eq k a ha
    · -- the new one
      rw [List.getElem?_concat_length] at ha
      obtain rfl := Option.some.inj ha
      rw [List.take_left, hxid, h.nextId_eq]
    · -- there is none behind it
      rw [List.getElem?_eq_none (by rw [List.length_append, List.length_singleton]; omega)] at ha
      cases ha

/-- **So does what a call prepares.** -/
theorem handsOver {messages : List Message} (hands : b.HandsOver o messages b')
    (h : Accounts ids random attempts b) :
    Accounts ids random (attempts ++ messages.map (Attempt.mk o)) b' := by
  -- the induction is on the messages, with the attempts before them on the left
  induction hands generalizing attempts with
  | nothing b =>
    rw [List.map_nil, List.append_nil]
    exact h
  | message m xid_eq behind ih =>
    rw [List.map_cons, List.append_cons]
    exact ih (h.attempt xid_eq)

end Accounts

/-! ### Runs -/

/-- An Advertise that a Request can answer: it is one, and it names a server. -/
def NamesServer (advertise : Option Message) : Prop :=
  ∃ a, advertise = some a ∧ a.type = .advertise ∧ (a.firstOption? .serverId).isSome

/-- To an Advertise that names a server, an answer can be built. -/
theorem NamesServer.exists_serverOf {advertise : Option Message} (h : NamesServer advertise) :
    ∃ a server, advertise = some a ∧ Message.serverOf (some a) = .ok server := by
  obtain ⟨a, rfl, htype, hserver⟩ := h
  obtain ⟨server, hserver⟩ := Option.isSome_iff_exists.mp hserver
  refine ⟨a, server, rfl, ?_⟩
  rw [Message.serverOf_of_advertise htype, hserver, Option.elim_some]

/-- To what names no server, none can. -/
theorem exists_serverOf_error {advertise : Option Message} (h : ¬ NamesServer advertise) :
    ∃ cause, Message.serverOf advertise = .error cause := by
  cases advertise with
  | none => exact ⟨.missing, rfl⟩
  | some a =>
    by_cases htype : a.type = .advertise
    · rw [Message.serverOf_of_advertise htype]
      cases hserver : a.firstOption? .serverId with
      | none => exact ⟨.noServer, rfl⟩
      | some server => exact absurd ⟨a, rfl, htype, by rw [hserver]; rfl⟩ h
    · exact ⟨.wrongType a.type, if_pos htype⟩

namespace Session

variable {τ : Type} [Recording τ]

/-- The attempts to send that a call makes. -/
def attemptsBy (s : Session τ) (c : Call) : List Attempt := (s.prepared c).map (Attempt.mk c.origin)

/-- **Runs and their attempts.** `Ran s₀ s attempts` says that a run from `s₀` can come to `s`,
having made these attempts to send on the way. Between two calls the world goes on, and the record
of the transport need not be kept. -/
inductive Ran (s₀ : Session τ) : Session τ → List Attempt → Prop
  /-- Nothing was called yet. -/
  | start : Ran s₀ s₀ []
  /-- A call is made. -/
  | call {s : Session τ} {attempts : List Attempt} (c : Call) (before : Ran s₀ s attempts) :
      Ran s₀ (s.after c) (attempts ++ s.attemptsBy c)
  /-- The world goes on, and the journal may be taken away. -/
  | meanwhile {s : Session τ} {attempts : List Attempt} (transport : τ) (journal : Journal)
      (before : Ran s₀ s attempts) : Ran s₀ { s with transport, journal } attempts

/-- A call that has nobody to send to. -/
def Unaddressed (s : Session τ) : Call → Prop
  | .request advertise => ¬ NamesServer advertise
  | .release => ¬ NamesServer s.advertise
  | .solicit _ | .obtain => False

/-- A call that has nobody to send to prepares nothing. -/
theorem prepared_of_unaddressed {s : Session τ} {c : Call} (h : s.Unaddressed c) :
    s.prepared c = [] := by
  cases c with
  | solicit given => exact h.elim
  | obtain => exact h.elim
  | request advertise =>
    obtain ⟨cause, hcause⟩ := exists_serverOf_error h
    exact answers_of_unnamed hcause s .request
  | release =>
    obtain ⟨cause, hcause⟩ := exists_serverOf_error h
    exact answers_of_unnamed hcause s .release

/-- So it hands nothing over, -/
theorem sentBy_of_unaddressed {s : Session τ} {c : Call} (h : s.Unaddressed c) :
    s.sentBy c = [] := by
  rw [sentBy_eq, prepared_of_unaddressed h, List.flatMap_nil]

/-- No run changes what a session is set up with. -/
theorem ran_setup {s₀ s : Session τ} {attempts : List Attempt} (h : s₀.Ran s attempts) :
    s.setup = s₀.setup := by
  induction h with
  | start => rfl
  | call c _ ih => exact (after_setup _ c).trans ih
  | meanwhile _ _ _ ih => exact ih

/-- What a run keeps can be written. -/
theorem ran_keepsWritable {s₀ s : Session τ} {attempts : List Attempt} (h₀ : s₀.advertise = none)
    (h : s₀.Ran s attempts) : s.KeepsWritable := by
  induction h with
  | start => exact keepsWritable_of_none h₀
  | call c _ ih => exact after_keepsWritable ih c
  | meanwhile _ _ _ ih => exact ih

end Session

end PrefixDelegation
