import PrefixDelegation.Proofs.Session.Echo
import PrefixDelegation.Proofs.Wire.Editing

/-!
# A Solicit asks once

A client may hand in the message that it solicits with. The session asks for a delegation in it if
it does not see that the message does so already, stamps it, and sends it. All of this happens to
the message that was handed in, so that whoever hands it in again hands in what was made of it.

What is asked for is the last option in front of the padding (`Session.front_askForDelegation`).
Where there is no tail the session sees it the next time, and leaves the message alone
(`Session.hasOption_askForDelegation`). So a message that is handed in again and again is sent the
same each time, however the exchanges end (`Session.SolicitsAgain.isCarriedBy`). A Solicit that the
session builds by itself has no tail either, and is read as what it was meant to be
(`Session.decode_ownSolicit`).
-/

namespace PrefixDelegation

open Wire

/-- A message that is put together is written as its header and its options. -/
theorem Message.octets_compose (type : MessageType) (xid : TransactionId)
    (options : List DhcpOption) :
    (compose type xid options).octets = datagram type xid (options.map (·.octets)) := by
  rw [compose, octets, optionOctets, List.flatMap_def]
  exact List.append_nil _

namespace Session

/-! ### Asking for a delegation -/

section Asking

variable (m : Message)

/-- Asking leaves the tail alone. -/
theorem tail_askForDelegation : (askForDelegation m).tail = m.tail := by
  unfold askForDelegation
  split
  · rfl
  · exact m.tail_addOption _

variable {m}

/-- **What is asked for is put at the end**, if it was not asked for yet. -/
theorem front_askForDelegation (h : m.IsOrderly) :
    (askForDelegation m).front = m.front ++
      (if m.hasOption Message.delegation then []
        else (DhcpOption.delegationRequest Message.associationNumber).octets) := by
  unfold askForDelegation
  by_cases hasked : m.hasOption Message.delegation
  · rw [if_pos hasked, if_pos hasked, List.append_nil]
  · rw [if_neg hasked, if_neg hasked]
    exact Message.front_addOption _ h

/-- A message that was asked in, and has no tail, shows it. -/
theorem hasOption_askForDelegation (htail : m.tail = .nothing) :
    (askForDelegation m).hasOption Message.delegation := by
  unfold askForDelegation
  by_cases hasked : m.hasOption Message.delegation
  · rw [if_pos hasked]
    exact hasked
  · -- what was added is the last of the options, since there is no tail to hide it
    rw [if_neg hasked, Message.hasOption, Message.options_addOption, if_pos htail, List.any_append]
    exact Bool.or_eq_true_iff.mpr (.inr (by decide))

/-- Nothing is added to a message that shows it. -/
theorem askForDelegation_of_hasOption (h : m.hasOption Message.delegation) :
    askForDelegation m = m :=
  if_pos h

end Asking

variable {τ : Type} [Recording τ]

/-! ### What a Solicit hands over -/

/-- The message that was handed in, as the session leaves it: asking, and stamped. -/
def handedIn (s : Session τ) (m : Message) : Message := (s.prepareSolicit (some m)).1

/-- It asks, and carries the identifier that was next. -/
theorem handedIn_eq (s : Session τ) (m : Message) :
    s.handedIn m = { askForDelegation m with xid := s.outbox.nextId (.given m.xid) } := by
  obtain ⟨hstamp, -⟩ := s.stamp_eq (askForDelegation m)
  rw [handedIn, prepareSolicit, hstamp, askForDelegation_xid]
  rfl

/-- It is also what the call returns as sent. -/
theorem sent_eq_handedIn {s : Session τ} {m : Message} {round : Round}
    (h : (s.solicit (some m)).1 = .ok round) : round.sent = s.handedIn m := by
  unfold handedIn
  rcases hp : s.prepareSolicit (some m) with ⟨sent, s₁⟩
  rcases hr : s₁.exchange .soliciting sent with ⟨fault | received, s₂⟩
  · rw [solicit_of_error hp hr] at h
    cases h
  · rw [solicit_of_reply hp hr] at h
    cases h
    rfl

/-- **What a Solicit hands over that was handed in**, if it can be written. -/
theorem sentBy_solicit_given {m : Message} (h : m.IsOrderly) (hwritable : m.IsWritable)
    (s : Session τ) :
    s.sentBy (.solicit (some m))
      = [UInt8.ofNat m.type.toNat :: Octets.ofNat 3 (s.outbox.nextId (.given m.xid)).val
          ++ (m.front ++ (if m.hasOption Message.delegation then []
              else (DhcpOption.delegationRequest Message.associationNumber).octets)
            ++ m.tail.paddingOctets)] := by
  -- the header is that of the message and the identifier that was next, and the rest was asked in
  calc s.sentBy (.solicit (some m))
      = (s.handedIn m).written := s.sentBy_solicit (some m)
    _ = [(s.handedIn m).octets] :=
        ((s.isWritable_prepareSolicit_given m).mpr hwritable).written_eq
    _ = [UInt8.ofNat (askForDelegation m).type.toNat
          :: Octets.ofNat 3 (s.outbox.nextId (.given m.xid)).val
          ++ ((askForDelegation m).front ++ (askForDelegation m).tail.paddingOctets)] := by
        rw [Message.octets_eq_content, handedIn_eq]
        rfl
    _ = _ := by
        rw [front_askForDelegation h, tail_askForDelegation, askForDelegation_type]

/-! ### Handing in a message again -/

/-- **A message that is handed in again and again.** `SolicitsAgain s₀ m₀ s m datagrams` says that a
client that was at `s₀` can come to `s` by soliciting with one message over and over, whatever comes
of it. The message was `m₀` and has become `m`, and these datagrams were handed over. In between
anything else may be called, and the world goes on. -/
inductive SolicitsAgain (s₀ : Session τ) (m₀ : Message) :
    Session τ → Message → List Octets → Prop
  /-- The message was not handed in yet. -/
  | start : SolicitsAgain s₀ m₀ s₀ m₀ []
  /-- It is handed in as it was left. -/
  | solicit {s : Session τ} {m : Message} {datagrams : List Octets}
      (before : SolicitsAgain s₀ m₀ s m datagrams) :
      SolicitsAgain s₀ m₀ (s.after (.solicit (some m))) (s.handedIn m)
        (datagrams ++ s.sentBy (.solicit (some m)))
  /-- Something else is called. -/
  | call {s : Session τ} {m : Message} {datagrams : List Octets} (c : Call)
      (before : SolicitsAgain s₀ m₀ s m datagrams) : SolicitsAgain s₀ m₀ (s.after c) m datagrams
  /-- The world goes on, and the journal may be taken away. -/
  | meanwhile {s : Session τ} {m : Message} {datagrams : List Octets} (transport : τ)
      (journal : Journal) (before : SolicitsAgain s₀ m₀ s m datagrams) :
      SolicitsAgain s₀ m₀ { s with transport, journal } m datagrams

namespace SolicitsAgain

variable {s₀ s : Session τ} {m₀ m : Message} {datagrams : List Octets}

/-- **What the message asks for stays the same**, if it has no tail. -/
theorem exists_askForDelegation (h : s₀.SolicitsAgain m₀ s m datagrams)
    (htail : m₀.tail = .nothing) :
    ∃ xid, askForDelegation m = { askForDelegation m₀ with xid } := by
  -- the induction is on the calls: the first one may add to the message, and no other does
  induction h with
  | start => exact ⟨(askForDelegation m₀).xid, rfl⟩
  | @solicit s m _ _ ih =>
    obtain ⟨xid, hasked⟩ := ih
    refine ⟨s.outbox.nextId (.given m.xid), ?_⟩
    have hleft : s.handedIn m
        = { askForDelegation m₀ with xid := s.outbox.nextId (.given m.xid) } := by
      rw [handedIn_eq, hasked]
    -- the message as it was left shows that it asks
    have hshown : (s.handedIn m).hasOption Message.delegation := by
      rw [hleft]
      exact hasOption_askForDelegation htail
    rw [askForDelegation_of_hasOption hshown, hleft]
  | call _ _ ih => exact ih
  | meanwhile _ _ _ ih => exact ih

/-- So it is sent the same the next time, -/
theorem sentBy_isCarriedBy (h : s₀.SolicitsAgain m₀ s m datagrams) (htail : m₀.tail = .nothing) :
    ∀ d ∈ s.sentBy (.solicit (some m)), (askForDelegation m₀).IsCarriedBy d := by
  intro d hd
  obtain ⟨xid, hasked⟩ := h.exists_askForDelegation htail
  rw [sentBy_solicit, ← handedIn, handedIn_eq, hasked] at hd
  exact ⟨_, Message.mem_written_iff.mp hd⟩

/-- one datagram each time, if the message can be written. -/
theorem sentBy_eq_singleton (h : s₀.SolicitsAgain m₀ s m datagrams) (htail : m₀.tail = .nothing)
    (hwritable : m₀.IsWritable) : ∃ again, s.sentBy (.solicit (some m)) = [again] := by
  obtain ⟨xid, hasked⟩ := h.exists_askForDelegation htail
  have hleft : (s.handedIn m).IsWritable := by
    rw [handedIn_eq, hasked]
    exact (isWritable_askForDelegation m₀).mpr hwritable
  exact ⟨_, (s.sentBy_solicit (some m)).trans hleft.written_eq⟩

/-- It was sent the same before, too. -/
theorem isCarriedBy (h : s₀.SolicitsAgain m₀ s m datagrams) (htail : m₀.tail = .nothing) :
    ∀ d ∈ datagrams, (askForDelegation m₀).IsCarriedBy d := by
  -- the induction is on the run, and only a call with the message hands over a datagram that counts
  induction h with
  | start =>
    intro d hd
    cases hd
  | solicit before ih =>
    intro d hd
    exact (List.mem_append.mp hd).elim (ih d) (before.sentBy_isCarriedBy htail d)
  | call _ _ ih => exact ih
  | meanwhile _ _ _ ih => exact ih

end SolicitsAgain

/-! ### The Solicit of a session -/

omit [Recording τ] in
/-- The identifier of a client is no delegation, whether it was composed or read. -/
theorem isA_delegation_clientId (duid : Octets) (composed : Bool) :
    (DhcpOption.mk (DhcpOption.clientId duid).octets composed).isA Message.delegation = false := by
  have hcode : codeOf (DhcpOption.clientId duid).octets = 1 := codeOf_compose 1 duid
  change (codeOf (DhcpOption.clientId duid).octets == 25) = false
  rw [hcode]
  rfl

omit [Recording τ] in
/-- A Solicit that was just built does not ask yet. -/
theorem hasOption_solicit (duid : Octets) (xid : TransactionId) :
    (Message.solicit duid xid).hasOption Message.delegation = false := by
  rw [Message.hasOption, Message.solicit, Message.compose, List.any_cons]
  refine (congrArg (· || _) (isA_delegation_clientId duid true)).trans ?_
  decide

/-- The options of a Solicit of a client, as they are sent. -/
def ownOptions (duid : Octets) : List Octets :=
  [(DhcpOption.clientId duid).octets, [0, 8, 0, 2, 0, 0], [0, 6, 0, 4, 0, 23, 0, 24],
    (DhcpOption.delegationRequest Message.associationNumber).octets]

/-- **What a Solicit hands over that the session builds**, if the client can be named in it. -/
theorem sentBy_solicit_none {s : Session τ} (hduid : s.duid.length < 0x10000) :
    s.sentBy (.solicit none)
      = [Message.datagram .solicit (s.outbox.nextId .drawn) (ownOptions s.duid)] := by
  have hprepare : (s.prepareSolicit none).1
      = { askForDelegation (.solicit s.duid s.draw.1) with xid := s.outbox.nextId .drawn } := by
    obtain ⟨hstamp, -⟩ := s.draw.2.stamp_eq (askForDelegation (.solicit s.duid s.draw.1))
    change (s.draw.2.stamp (askForDelegation (.solicit s.duid s.draw.1))).1 = _
    rw [hstamp, askForDelegation_xid]
    rfl
  have hasked : askForDelegation (.solicit s.duid s.draw.1)
      = (Message.solicit s.duid s.draw.1).addOption
        (.delegationRequest Message.associationNumber) := by
    rw [askForDelegation, hasOption_solicit]
    rfl
  rw [sentBy_solicit, (s.isWritable_prepareSolicit.mpr hduid).written_eq, hprepare, hasked]
  exact congrArg (List.cons · []) (Message.octets_compose .solicit (s.outbox.nextId .drawn)
    [.clientId s.duid, .elapsedTime, .optionRequest,
      .delegationRequest Message.associationNumber])

/-- **It is read as it was meant.** -/
theorem decode_ownSolicit {duid : Octets} (h : 1 ≤ duid.length ∧ duid.length < 256 ^ 2)
    (xid : TransactionId) :
    ∃ r, Message.decode (Message.datagram .solicit xid (ownOptions duid)) = .ok r ∧
      r.type = .solicit ∧ r.xid = xid ∧ r.clientId? = some (some duid) ∧
      r.associations = .ok [⟨1, 0, 0, []⟩] := by
  have hlinks : ∀ o ∈ ownOptions duid, IsLink o := by
    have hothers : ∀ o ∈ [[0, 8, 0, 2, 0, 0], [0, 6, 0, 4, 0, 23, 0, 24],
        (DhcpOption.delegationRequest Message.associationNumber).octets], IsLink o := by
      decide +kernel
    intro o ho
    rcases List.mem_cons.mp ho with rfl | ho
    · exact isLink_clientId h.2
    · exact hothers o ho
  refine ⟨_, Message.decode_datagram (by decide) xid hlinks, rfl, rfl,
    Message.clientId?_of_options rfl h, ?_⟩
  -- of its options only the last is a delegation
  have hfilter : (Message.messageOf .solicit xid (ownOptions duid)).options.filter
      (·.isA Message.delegation)
        = [.ofRead (DhcpOption.delegationRequest Message.associationNumber).octets] := by
    have hclient := isA_delegation_clientId duid false
    rw [Message.messageOf, ownOptions, List.map_cons, List.filter_cons_of_neg (by
      rw [DhcpOption.ofRead, hclient]
      decide)]
    decide +kernel
  rw [Message.associations, hfilter]
  decide +kernel

/-- **A Solicit asks once.** Let any client solicit with a Solicit that was read or built, and then
edited in any way, and that can be written. One datagram is handed over. It is the message with the
identifier that was next, and an empty delegation with number 1 stands in front of the padding and
behind all else, if no delegation is seen in the message; if one is, nothing is added. If the message
has no raw octets and no padding, it can be handed in again, as it was left, any number of times,
whatever else is called and however the exchanges end, and what is handed over is the same each time
apart from the transaction. A message that cannot be written is not handed over.

A call that is answered returns the message as it was left. Without a message, what is handed over is
read as a Solicit in the transaction that was next, of the client, with one association, which has
number 1 and no networks. -/
theorem solicit_asks_once {m : Message} (hmade : m.IsMade) (htype : m.type = .solicit)
    (s : Session τ) :
    (∀ data, m.encode = .ok data →
      s.sentBy (.solicit (some m))
          = [1 :: Octets.ofNat 3 (s.outbox.nextId (.given m.xid)).val
              ++ (m.front ++ (if m.hasOption Message.delegation then []
                  else [0, 25, 0, 12, 0, 0, 0, 1, 0, 0, 0, 0, 0, 0, 0, 0])
                ++ m.tail.paddingOctets)] ∧
        data = 1 :: Octets.ofNat 3 m.xid.val ++ (m.front ++ m.tail.paddingOctets) ∧
        (m.tail = .nothing → ∀ s' m' datagrams, s.SolicitsAgain m s' m' datagrams →
          (∃ again, s'.sentBy (.solicit (some m')) = [again]) ∧
            ∀ d ∈ datagrams ++ s'.sentBy (.solicit (some m')),
              ∀ d' ∈ datagrams ++ s'.sentBy (.solicit (some m')),
                Message.SameApartFromXid d d')) ∧
      (∀ e, m.encode = .error e → s.sentBy (.solicit (some m)) = []) ∧
      (∀ round, (s.solicit (some m)).1 = .ok round → round.sent = s.handedIn m) ∧
      (4 ≤ s.duid.length ∧ s.duid.length ≤ 65535 → ∃ datagram r,
        s.sentBy (.solicit none) = [datagram] ∧ Message.decode datagram = .ok r ∧
          r.type = .solicit ∧ r.xid = s.outbox.nextId .drawn ∧ r.clientId? = some (some s.duid) ∧
          r.associations = .ok [⟨1, 0, 0, []⟩]) := by
  refine ⟨fun data hencode => ?_, fun e hencode => ?_, fun round => sent_eq_handedIn, ?_⟩
  · obtain ⟨hwritable, rfl⟩ := Message.encode_eq_ok_iff.mp hencode
    have hsent := sentBy_solicit_given hmade.isOrderly hwritable s
    have hoctets := m.octets_eq_content
    rw [htype] at hsent hoctets
    refine ⟨hsent, hoctets, fun htail s' m' datagrams hagain => ?_⟩
    refine ⟨hagain.sentBy_eq_singleton htail hwritable, ?_⟩
    -- everything that was handed over carries the message in which was asked first
    have hall : ∀ d ∈ datagrams ++ s'.sentBy (.solicit (some m')),
        (askForDelegation m).IsCarriedBy d := by
      intro d hd
      exact (List.mem_append.mp hd).elim (hagain.isCarriedBy htail d)
        (hagain.sentBy_isCarriedBy htail d)
    intro d hd d' hd'
    exact (hall d hd).sameApartFromXid (hall d' hd')
  · -- neither is what is made of a message that cannot be written
    have hnot : ¬ (s.prepareSolicit (some m)).1.IsWritable := fun hwritable => by
      rw [((s.isWritable_prepareSolicit_given m).mp hwritable).encode_eq] at hencode
      cases hencode
    rw [sentBy_solicit, Message.written_of_not_isWritable hnot]
  · rintro ⟨hfour, hlength⟩
    have hduid : 1 ≤ s.duid.length ∧ s.duid.length < 256 ^ 2 := by omega
    obtain ⟨r, hr, hread⟩ := decode_ownSolicit hduid (s.outbox.nextId .drawn)
    exact ⟨_, r, sentBy_solicit_none hduid.2, hr, hread⟩

/-- A Solicit of a client that also asks for a rapid commit. -/
def rapidSolicit : Message :=
  (Message.solicit [0, 3, 0, 1] (.ofNat 7)).edits [.addOption (.compose 14 [])]

/-- It is handed in twice, and nobody answers. The delegation stands at the end both times, and only
once, and the second Solicit differs from the first in its identifier alone. -/
theorem solicit_asks_once_of_silence :
    ∃ first second, (smallSession []).sentBy (.solicit (some rapidSolicit)) = [first] ∧
      ((smallSession []).after (.solicit (some rapidSolicit))).sentBy
        (.solicit (some ((smallSession []).handedIn rapidSolicit))) = [second] ∧
      first = [1, 0, 0, 0x11, 0, 1, 0, 4, 0, 3, 0, 1, 0, 8, 0, 2, 0, 0, 0, 6, 0, 4, 0, 23, 0, 24,
        0, 14, 0, 0, 0, 25, 0, 12, 0, 0, 0, 1, 0, 0, 0, 0, 0, 0, 0, 0] ∧
      first ≠ second ∧ Message.SameApartFromXid first second := by
  have hmade : rapidSolicit.IsMade := ⟨_, _, .solicit [0, 3, 0, 1] (.ofNat 7), rfl⟩
  have hencode : rapidSolicit.encode = .ok rapidSolicit.octets :=
    Message.IsWritable.encode_eq (by decide)
  obtain ⟨hwritten, -⟩ := solicit_asks_once hmade rfl (smallSession [])
  obtain ⟨hsent, -, hagain⟩ := hwritten _ hencode
  obtain ⟨⟨second, hsecond⟩, hsame⟩ := hagain rfl _ _ _ (.solicit .start)
  rw [hsecond, hsent] at hsame
  have hother : (smallSession []).sentBy (.solicit (some rapidSolicit))
      ≠ ((smallSession []).after (.solicit (some rapidSolicit))).sentBy
        (.solicit (some ((smallSession []).handedIn rapidSolicit))) := by
    decide +kernel
  refine ⟨_, second, hsent, hsecond, by decide +kernel, ?_, hsame _ (by simp) second (by simp)⟩
  intro heq
  rw [hsent, hsecond, heq] at hother
  exact hother rfl

end Session

end PrefixDelegation
