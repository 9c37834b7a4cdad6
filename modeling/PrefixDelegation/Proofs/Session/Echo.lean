import PrefixDelegation.Proofs.Session.Outbox
import PrefixDelegation.Proofs.Traversal
import PrefixDelegation.Proofs.Wire.Reread

/-!
# A Request echoes its Advertise

A Request names the server of the Advertise that it answers, and asks for the first delegation that
was offered there. Both are copied from the Advertise, octet by octet, so the datagram is known
exactly (`Message.octets_answer`). Whoever reads it finds the client and the transaction, whatever
was copied. The copies stand among other octets than before, and are not always read as they were:

* the server is found as it was named exactly if its identifier had not been cut off by the end of
  the Advertise, since a declared length that goes on takes the octets that stand behind the copy;
* the delegation is found as it was offered if the server is, and if the copy declares at least its
  own fields. It stands at the end, where a list that was cut off does no harm.

`Session.request_echoes` puts this together for the datagram that a session hands over.
-/

namespace PrefixDelegation

open Wire

namespace Wire

/-! ### The options that every answer has -/

/-- The identifier of the client is complete, if its length can be declared. -/
theorem isLink_clientId {duid : Octets} (h : duid.length < 256 ^ 2) :
    IsLink (DhcpOption.clientId duid).octets := by
  have hcode : codeOf (DhcpOption.clientId duid).octets = 1 := codeOf_compose 1 duid
  have hheld : heldBy (DhcpOption.clientId duid).octets (DhcpOption.clientId duid).octets.length
      = [] := by
    rw [heldBy, hcode]
    rfl
  have hcomplete : IsComplete (DhcpOption.clientId duid).octets :=
    isComplete_compose h trivial (not_isCrowded_of_heldBy hheld)
  exact ⟨hcomplete, by rw [hcode]; decide⟩

@[simp] theorem DhcpOption.isA_ofRead_withCode (octets : Octets) (code : Nat) :
    (ofRead octets).isA (.withCode code) = (codeOf octets == code) := rfl

@[simp] theorem DhcpOption.isA_ofRead_serverId (octets : Octets) :
    (ofRead octets).isA .serverId = (codeOf octets == 2) := rfl

/-- An identifier that declares any octets carries them. -/
theorem DhcpOption.identifier?_of_declared {o : DhcpOption} (h : 1 ≤ declaredOf o.octets) :
    o.identifier? = some o.body :=
  if_neg fun hnone => by omega

end Wire

namespace Message

/-! ### What was copied -/

/-- The octets of the first delegation of a message, if there is one. -/
def offered (m : Message) : Octets := (m.firstOption? delegation).elim [] (·.octets)

/-- The octets behind the two identifiers of an answer: no time has passed, name servers and domains
are asked for, and the delegation that was offered. -/
def asking (advertise : Message) : Octets :=
  [0, 8, 0, 2, 0, 0] ++ ([0, 6, 0, 4, 0, 23, 0, 24] ++ advertise.offered)

/-- **The octets of an answer.** -/
theorem octets_answer (type : MessageType) (xid : TransactionId) (duid : Octets)
    (server : DhcpOption) (a : Message) :
    (answer type xid duid server a).octets = UInt8.ofNat type.toNat :: Octets.ofNat 3 xid.val ++
      ((DhcpOption.clientId duid).octets ++ (server.octets ++ a.asking)) := by
  have hoffered : optionOctets (a.firstOption? delegation).toList = a.offered := by
    unfold offered
    cases a.firstOption? delegation with
    | none => rfl
    | some o => exact List.append_nil _
  have hoptions : optionOctets ([.clientId duid, server, .elapsedTime, .optionRequest] ++
      (a.firstOption? delegation).toList)
        = (DhcpOption.clientId duid).octets ++ (server.octets ++ a.asking) := by
    rw [asking, ← hoffered]
    simp only [optionOctets, List.flatMap_append, List.flatMap_cons, List.flatMap_nil,
      List.append_nil, List.append_assoc]
    rfl
  rw [answer, compose, octets, hoptions]
  exact List.append_nil _

variable {data : Octets} {m : Message} {o : DhcpOption}

/-- The options of a message are the chain behind its header. -/
theorem options_of_decode (h : decode data = .ok m) :
    m.options = (Chain.read (data.drop 4)).options.map .ofRead := by
  unfold decode at h
  split at h
  · -- there is a header
    split at h
    · cases h
    · split at h
      · cases h
      · split at h
        · cases h
        · cases h
          rfl
  · cases h

/-- The options of a message were read. -/
theorem wasRead_of_decode (h : decode data = .ok m) (ho : o ∈ m.options) : WasRead o.octets := by
  rw [options_of_decode h] at ho
  obtain ⟨octets, hmem, rfl⟩ := List.mem_map.mp ho
  exact Chain.wasRead_of_mem hmem

/-- The server that a message names, if its identifier declares any octets. -/
theorem serverId?_of_declared (h : m.firstOption? .serverId = some o)
    (hdeclared : 1 ≤ declaredOf o.octets) : m.serverId? = some (some o.body) := by
  have hfirst : m.firstOption? (.withCode 2) = some o := h
  rw [serverId?, identifierIn?, hfirst, Option.map_some, DhcpOption.identifier?_of_declared hdeclared]

/-! ### Reading an answer -/

section Read

variable {type : MessageType} {xid : TransactionId} {duid : Octets} {server : DhcpOption}
  {a r : Message}

/-- **An answer is read as a message of its client**, whatever was copied into it. -/
theorem decode_answer (htype : IsExchanged type.toNat) (xid : TransactionId)
    (hduid : duid.length < 256 ^ 2) (server : DhcpOption) (a : Message) :
    ∃ r, decode (answer type xid duid server a).octets = .ok r ∧ r.type = type ∧ r.xid = xid ∧
      r.options = .ofRead (DhcpOption.clientId duid).octets ::
        (Chain.read (server.octets ++ a.asking)).options.map .ofRead := by
  have hclient := isLink_clientId hduid
  have hread := decode_header htype xid
    ((DhcpOption.clientId duid).octets ++ (server.octets ++ a.asking))
  -- the client stands in front of what was copied, and is complete
  rw [Chain.read_append hclient.isWhole hclient.not_crowded hclient.not_endsChain] at hread
  rw [octets_answer]
  exact ⟨_, hread, rfl, rfl, rfl⟩

/-- The client is found as it is named. -/
theorem clientId?_of_options {rest : List DhcpOption}
    (h : r.options = .ofRead (DhcpOption.clientId duid).octets :: rest)
    (hduid : 1 ≤ duid.length ∧ duid.length < 256 ^ 2) : r.clientId? = some (some duid) := by
  have hcode : codeOf (DhcpOption.clientId duid).octets = 1 := codeOf_compose 1 duid
  have hdeclared : declaredOf (DhcpOption.clientId duid).octets = duid.length :=
    declaredOf_compose 1 hduid.2
  have hfirst : r.firstOption? (.withCode 1)
      = some (.ofRead (DhcpOption.clientId duid).octets) := by
    rw [firstOption?, h]
    exact List.find?_cons_of_pos (by simp [hcode])
  rw [clientId?, identifierIn?, hfirst, Option.map_some, DhcpOption.identifier?_of_declared
    (by rw [DhcpOption.ofRead, hdeclared]; exact hduid.1)]
  have hbody : (DhcpOption.clientId duid).octets.drop 4 = duid := List.drop_left' (by simp)
  rw [DhcpOption.body, DhcpOption.ofRead, hbody]

/-- The server that is found in an answer is the one at the front of what was copied. -/
theorem serverId?_of_options {o : Octets} {rest : List DhcpOption}
    (h : r.options = .ofRead (DhcpOption.clientId duid).octets :: .ofRead o :: rest)
    (hcode : codeOf o = 2) (hdeclared : 1 ≤ declaredOf o) : r.serverId? = some (some (o.drop 4)) := by
  have hclient : codeOf (DhcpOption.clientId duid).octets = 1 := codeOf_compose 1 duid
  have hfirst : r.firstOption? .serverId = some (.ofRead o) := by
    rw [firstOption?, h, List.find?_cons_of_neg (by simp [hclient])]
    exact List.find?_cons_of_pos (by simp [hcode])
  exact serverId?_of_declared hfirst hdeclared

/-- **The server is found as it was named exactly if its identifier had not been cut off.** -/
theorem serverId?_answer_iff (hread : WasRead server.octets) (hcode : codeOf server.octets = 2)
    (hdeclared : 1 ≤ declaredOf server.octets)
    (hr : r.options = .ofRead (DhcpOption.clientId duid).octets ::
      (Chain.read (server.octets ++ a.asking)).options.map .ofRead) :
    r.serverId? = some (some server.body) ↔ server.body.length = declaredOf server.octets := by
  have hlayout : Layout.ofCode (codeOf server.octets) = .identifier := by
    rw [hcode]
    rfl
  have hends : ¬ endsChain (codeOf server.octets) := by
    rw [hcode]
    decide
  have hfour := hread.four_le
  have hbody : server.body.length = server.octets.length - 4 := List.length_drop
  constructor
  · intro hsame
    by_contra hne
    -- the copy takes some of what stands behind it, and is longer than what it was copied from
    have hle := hread.length_le hlayout
    have hasking : a.asking ≠ [] := List.cons_ne_nil _ _
    obtain ⟨more, rest, hmore, hoptions⟩ :=
      Chain.read_of_cut hlayout hfour (by omega) hends hasking
    rw [hoptions] at hr
    have hfound : r.serverId? = some (some ((server.octets ++ more).drop 4)) :=
      serverId?_of_options hr (by rw [codeOf_append hfour]; exact hcode)
        (by rw [declaredOf_append hfour]; exact hdeclared)
    have hoctets : (server.octets ++ more).drop 4 = server.octets.drop 4 :=
      Option.some.inj (Option.some.inj (hfound.symm.trans hsame))
    have hlength := congrArg List.length hoctets
    have hpos := List.length_pos_iff.mpr hmore
    rw [List.length_drop, List.length_drop, List.length_append] at hlength
    omega
  · intro hlength
    -- the copy takes its own octets
    have hcomplete := hread.isComplete hlayout (by omega)
    rw [Chain.read_append hcomplete.isWhole hcomplete.not_crowded hends] at hr
    exact serverId?_of_options hr hcode hdeclared

/-- What is asked for between the server and the offer is complete. -/
theorem isLink_of_asking :
    ∀ o ∈ [[0, 8, 0, 2, 0, 0], [0, 6, 0, 4, 0, 23, 0, 24]], IsLink o := by
  decide +kernel

/-- A delegation that is found has the code of one. -/
theorem codeOf_of_delegation (h : a.firstOption? delegation = some o) : codeOf o.octets = 25 := by
  have hkind := List.find?_some h
  exact beq_iff_eq.mp hkind

/-- What is read at the end of an answer is the delegation that was offered, if there is one. -/
theorem read_offered (hoffer : ∀ o, a.firstOption? delegation = some o →
    WasRead o.octets ∧ 12 ≤ declaredOf o.octets) :
    (Chain.read a.offered).options = (a.firstOption? delegation).toList.map (·.octets) := by
  rw [offered]
  cases hfirst : a.firstOption? delegation with
  | none =>
    rw [Option.elim_none, Chain.read_nil]
    rfl
  | some o =>
    obtain ⟨hread, hdeclared⟩ := hoffer o hfirst
    have hcode := codeOf_of_delegation hfirst
    have hlayout : Layout.ofCode (codeOf o.octets) = .holding 12 := by
      rw [hcode]
      rfl
    have hself := hread.extent?_self hlayout hdeclared
    rw [Option.elim_some, Chain.read_of_extent?_self hread hself (by rw [hcode]; decide)]
    rfl

/-- **The delegation is found as it was offered**, if the server is and the copy declares its
fields. -/
theorem associations_answer {as : List Association} (hserver : IsComplete server.octets)
    (hcode : codeOf server.octets = 2)
    (hoffer : ∀ o, a.firstOption? delegation = some o →
      WasRead o.octets ∧ 12 ≤ declaredOf o.octets)
    (ha : a.associations = .ok as)
    (hr : r.options = .ofRead (DhcpOption.clientId duid).octets ::
      (Chain.read (server.octets ++ a.asking)).options.map .ofRead) :
    r.associations = .ok (as.take 1) := by
  have hclient : codeOf (DhcpOption.clientId duid).octets = 1 := codeOf_compose 1 duid
  have hasking : a.asking
      = [[0, 8, 0, 2, 0, 0], [0, 6, 0, 4, 0, 23, 0, 24]].flatten ++ a.offered := rfl
  have hends : ¬ endsChain (codeOf server.octets) := by
    rw [hcode]
    decide
  rw [Chain.read_append hserver.isWhole hserver.not_crowded hends, hasking,
    Chain.read_flatten_append isLink_of_asking, read_offered hoffer] at hr
  -- only the offer is a delegation, and it was the first of those of the Advertise
  have hothers : codeOf [0, 8, 0, 2, 0, 0] = 8 ∧ codeOf [0, 6, 0, 4, 0, 23, 0, 24] = 6 := by
    decide
  have hfilter : r.options.filter (·.isA delegation)
      = (a.firstOption? delegation).toList.map fun o => .ofRead o.octets := by
    rw [hr]
    cases hfirst : a.firstOption? delegation with
    | none => simp [delegation, hclient, hcode, hothers]
    | some o => simp [delegation, hclient, hcode, hothers, codeOf_of_delegation hfirst]
  have hoffers : (a.firstOption? delegation).toList
      = (a.options.filter (·.isA delegation)).take 1 := by
    rw [List.take_one, List.head?_filter]
    rfl
  rw [associations] at ha ⊢
  rw [hfilter, hoffers, List.mapM_map]
  exact mapM_take 1 ha

end Read

end Message

namespace Session

variable {τ : Type} [Recording τ]

/-- **A Request echoes its Advertise.** Let an Advertise be read that names a server with an
identifier that declares any octets, and let a session of any client ask that server, over any
transport. One datagram is handed over, whose octets are those of header, client, server and offer,
each in its place. It is read as a message with the transaction identifier that was next, and of the
client. Its server is that of the Advertise exactly if the identifier had not been cut off. If so,
its associations are the first one of the Advertise alone, or none if there is none, provided that
those of the Advertise can be read and the first declares at least its fields. -/
theorem request_echoes {data : Octets} {a : Message} {server : DhcpOption}
    (hdecode : Message.decode data = .ok a) (htype : a.type = .advertise)
    (hserver : a.firstOption? .serverId = some server)
    (hdeclared : 1 ≤ declaredOf server.octets) (s : Session τ)
    (hduid : 4 ≤ s.duid.length ∧ s.duid.length ≤ 65535) :
    ∃ datagram r, s.sentBy (.request (some a)) = [datagram] ∧
      datagram = 3 :: Octets.ofNat 3 (s.outbox.nextId .drawn).val
        ++ ([0, 1] ++ Octets.ofNat 2 s.duid.length ++ s.duid) ++ server.octets
        ++ [0, 8, 0, 2, 0, 0] ++ [0, 6, 0, 4, 0, 23, 0, 24]
        ++ (a.firstOption? Message.delegation).elim [] (·.octets) ∧
      Message.decode datagram = .ok r ∧ r.type = .request ∧
      r.xid = s.outbox.nextId .drawn ∧ r.clientId? = some (some s.duid) ∧
      (r.serverId? = a.serverId? ↔ server.body.length = declaredOf server.octets) ∧
      (r.serverId? = a.serverId? → ∀ as, a.associations = .ok as →
        (∀ o, a.firstOption? Message.delegation = some o → 12 ≤ declaredOf o.octets) →
        r.associations = .ok (as.take 1)) := by
  have hnamed : Message.serverOf (some a) = .ok server := by
    rw [Message.serverOf_of_advertise htype, hserver, Option.elim_some]
  have hduid' : s.duid.length < 256 ^ 2 := by omega
  have hsent : s.sentBy (.request (some a))
      = [(Message.answer .request (s.outbox.nextId .drawn) s.duid server a).octets] := by
    rw [sentBy_request hnamed,
      Message.written_answer (Message.isWritable_of_decode hdecode) hnamed hduid']
  -- what is copied was read
  have hread : ∀ {o : DhcpOption}, o ∈ a.options → WasRead o.octets :=
    Message.wasRead_of_decode hdecode
  have hcode : codeOf server.octets = 2 := by
    have hkind := List.find?_some hserver
    exact beq_iff_eq.mp hkind
  have hserverRead := hread (List.mem_of_find?_eq_some hserver)
  obtain ⟨r, hr, hrtype, hrxid, hoptions⟩ := Message.decode_answer
    (by decide : IsExchanged MessageType.request.toNat) (s.outbox.nextId .drawn) hduid' server a
  have hiff := Message.serverId?_answer_iff hserverRead hcode hdeclared hoptions
  -- what the reader finds is settled, and the octets and the offer are left
  rw [Message.serverId?_of_declared hserver hdeclared]
  refine ⟨_, r, hsent, ?_, hr, hrtype, hrxid,
    Message.clientId?_of_options hoptions ⟨by omega, hduid'⟩, hiff, fun hsame as has hfields => ?_⟩
  · rw [Message.octets_answer]
    simp only [Message.asking, DhcpOption.clientId, DhcpOption.compose, List.append_assoc,
      List.cons_append]
    rfl
  · -- the identifier of the server had not been cut off
    have hbody : server.body.length = server.octets.length - 4 := List.length_drop
    have hfour := hserverRead.four_le
    have hlength := hiff.mp hsame
    have hcomplete : IsComplete server.octets :=
      hserverRead.isComplete (by rw [hcode]; rfl) (by omega)
    refine Message.associations_answer hcomplete hcode (fun o ho => ⟨?_, hfields o ho⟩) has hoptions
    exact hread (List.mem_of_find?_eq_some ho)

/-- A small Advertise offers two delegations and names its server in full. The Request that answers
it names the same server, and asks for the first delegation and for no other. -/
theorem request_echoes_of_advertise :
    ∃ a datagram r first second,
      Message.decode (Message.datagram .advertise default Message.advertisedOptions) = .ok a ∧
      a.associations = .ok [first, second] ∧
      (smallSession []).sentBy (.request (some a)) = [datagram] ∧
      Message.decode datagram = .ok r ∧ r.serverId? = some (some [0, 3, 0, 1]) ∧
      r.associations = .ok [first] := by
  have hdecode := Message.decode_datagram (by decide : IsExchanged MessageType.advertise.toNat)
    default (by decide +kernel : ∀ o ∈ Message.advertisedOptions, IsLink o)
  generalize ha : Message.messageOf .advertise default Message.advertisedOptions = a at hdecode
  have hserver : a.firstOption? .serverId = some (.ofRead [0, 2, 0, 4, 0, 3, 0, 1]) := by
    rw [← ha]
    rfl
  have hfields : ∀ o, a.firstOption? Message.delegation = some o → 12 ≤ declaredOf o.octets := by
    intro o ho
    rw [← ha] at ho
    cases ho
    decide
  have hcount : a.associations.toOption.map List.length = some 2 := by
    rw [← ha]
    decide +kernel
  obtain ⟨first, second, has⟩ : ∃ first second, a.associations = .ok [first, second] := by
    rcases has : a.associations with e | as
    · rw [has] at hcount
      cases hcount
    · rw [has] at hcount
      obtain ⟨first, second, rfl⟩ := List.length_eq_two.mp (Option.some.inj hcount)
      exact ⟨first, second, rfl⟩
  obtain ⟨datagram, r, hsent, -, hr, -, -, -, hiff, hassociations⟩ :=
    request_echoes hdecode (ha ▸ rfl) hserver (by decide) (smallSession []) (by decide)
  have hsame := hiff.mpr (by decide)
  have hfound := Message.serverId?_of_declared hserver (by decide)
  exact ⟨a, datagram, r, first, second, hdecode, has, hsent, hr, hsame.trans hfound,
    hassociations hsame _ has hfields⟩

end Session

end PrefixDelegation
