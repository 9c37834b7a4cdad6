import Mathlib.Tactic.Common
import PrefixDelegation.Proofs.Wire.BigEndian
import PrefixDelegation.Wire.Message

/-!
# What can be written

A message is *writable* when each of its options can be written, those behind a tail included
(`Message.IsWritable`), and a message is written exactly if it is (`Message.encode_eq_ok_iff`). An
option that is added has to be writable too (`Message.isWritable_addOption`).

All options are that were read. Of the options that a client puts together, only the one with its own
identifier can be too long (`Wire.DhcpOption.isWritable_clientId`).
-/

namespace PrefixDelegation

open Wire

namespace Wire.DhcpOption

@[simp] theorem isWritable_ofRead (octets : Octets) : (ofRead octets).isWritable = true := rfl

theorem body_compose (code : UInt16) (body : Octets) : (compose code body).body = body := by
  have hheader : (Octets.ofNat 2 code.toNat ++ Octets.ofNat 2 body.length).length = 4 := by
    rw [List.length_append, Octets.length_ofNat, Octets.length_ofNat]
  exact List.drop_left' hheader

/-- What is composed can be written if the length of its body can be declared. -/
theorem isWritable_compose {code : UInt16} {body : Octets} :
    (compose code body).isWritable = true ↔ body.length < 0x10000 := by
  rw [isWritable, body_compose]
  simp [compose]

theorem isWritable_clientId {duid : Octets} :
    (clientId duid).isWritable = true ↔ duid.length < 0x10000 :=
  isWritable_compose

@[simp] theorem isWritable_elapsedTime : elapsedTime.isWritable = true := rfl

@[simp] theorem isWritable_optionRequest : optionRequest.isWritable = true := rfl

@[simp] theorem isWritable_delegationRequest (iaid : UInt32) :
    (delegationRequest iaid).isWritable = true := by
  rw [delegationRequest, isWritable_compose]
  simp

end Wire.DhcpOption

namespace Message

variable {m : Message}

/-- A message is *writable* when each of its options is, those behind a tail included. -/
def IsWritable (m : Message) : Prop := ∀ o ∈ m.options ++ m.hidden, o.isWritable = true

instance (m : Message) : Decidable m.IsWritable :=
  inferInstanceAs (Decidable (∀ o ∈ m.options ++ m.hidden, o.isWritable = true))

theorem unwritable?_eq_none_iff : m.unwritable? = none ↔ m.IsWritable := by
  rw [unwritable?, List.find?_eq_none]
  simp only [Bool.not_eq_true', Bool.not_eq_false]
  rfl

/-- A message that is writable is written. -/
theorem IsWritable.encode_eq (h : m.IsWritable) : m.encode = .ok m.octets := by
  rw [encode, unwritable?_eq_none_iff.mpr h]

/-- One that is not has an option that is too long, and that is reported. -/
theorem encode_of_not_isWritable (h : ¬ m.IsWritable) :
    ∃ o ∈ m.options ++ m.hidden, o.isWritable = false ∧
      m.encode = .error (.optionTooLong o.code o.body.length) := by
  obtain ⟨o, ho⟩ := Option.ne_none_iff_exists'.mp (mt unwritable?_eq_none_iff.mp h)
  refine ⟨o, List.mem_of_find?_eq_some ho, ?_, by rw [encode, ho]⟩
  simpa using List.find?_some ho

/-- **A message is written exactly if it is writable**, and then as its octets. -/
theorem encode_eq_ok_iff {d : Octets} : m.encode = .ok d ↔ m.IsWritable ∧ m.octets = d := by
  by_cases h : m.IsWritable
  · simp [h.encode_eq, h]
  · obtain ⟨o, -, -, he⟩ := encode_of_not_isWritable h
    simp [he, h]

/-- An option that is added has to be writable too. -/
theorem isWritable_addOption {o : DhcpOption} :
    (m.addOption o).IsWritable ↔ m.IsWritable ∧ o.isWritable = true := by
  unfold addOption IsWritable
  cases m.tail <;> simp only [List.forall_mem_append, List.forall_mem_singleton] <;> tauto

theorem isWritable_compose {type : MessageType} {xid : TransactionId} {options : List DhcpOption} :
    (compose type xid options).IsWritable ↔ ∀ o ∈ options, o.isWritable = true := by
  simp [IsWritable, compose]

/-- A Solicit is writable if its client has an identifier of a length that can be declared. -/
theorem isWritable_solicit {duid : Octets} {xid : TransactionId} :
    (solicit duid xid).IsWritable ↔ duid.length < 0x10000 := by
  rw [solicit, isWritable_compose]
  simp [DhcpOption.isWritable_clientId]

/-- So is a Request, if the server's identifier can be written. -/
theorem isWritable_request {duid : Octets} {server : DhcpOption} {xid : TransactionId}
    (hserver : server.isWritable = true) :
    (request duid server xid).IsWritable ↔ duid.length < 0x10000 := by
  rw [request, isWritable_compose]
  simp [DhcpOption.isWritable_clientId, hserver]

/-- An option that is found in a writable message can be written. -/
theorem IsWritable.firstOption? (h : m.IsWritable) {kind : OptionKind} {o : DhcpOption}
    (ho : m.firstOption? kind = some o) : o.isWritable = true :=
  h o (List.mem_append_left _ (List.mem_of_find?_eq_some ho))

/-- So can the identifier of its server. -/
theorem IsWritable.serverOf (h : m.IsWritable) {server : DhcpOption}
    (hs : Message.serverOf (some m) = .ok server) : server.isWritable = true := by
  unfold Message.serverOf at hs
  dsimp only at hs
  split at hs
  · cases hs
  · split at hs
    · cases hs
    · next o ho =>
      cases hs
      exact h.firstOption? ho

/-- What an Advertise offered can be asked for in a message that stays writable. -/
theorem IsWritable.withOffer {a : Message} (ha : a.IsWritable) :
    (m.withOffer a).IsWritable ↔ m.IsWritable := by
  unfold Message.withOffer
  split
  · rfl
  · next o ho => simp [isWritable_addOption, ha.firstOption? ho]

/-- The octets of a message, if it can be written: what becomes of it when it is handed over. -/
def written (m : Message) : List Octets := m.encode.toOption.toList

theorem mem_written_iff {d : Octets} : d ∈ m.written ↔ m.encode = .ok d := by
  rw [written, Option.mem_toList]
  cases m.encode <;> simp [Except.toOption]

theorem IsWritable.written_eq (h : m.IsWritable) : m.written = [m.octets] := by
  rw [written, h.encode_eq]
  rfl

theorem written_of_not_isWritable (h : ¬ m.IsWritable) : m.written = [] := by
  obtain ⟨o, -, -, he⟩ := encode_of_not_isWritable h
  rw [written, he]
  rfl

/-- Messages that can be written are written as their octets. -/
theorem flatMap_written {messages : List Message} (h : ∀ m ∈ messages, m.IsWritable) :
    messages.flatMap written = messages.map octets := by
  rw [List.flatMap_def, List.map_congr_left fun m hm => (h m hm).written_eq,
    ← List.flatMap_def, ← List.map_eq_flatMap]

theorem written_of_encode {d : Octets} (h : m.encode = .ok d) : m.written = [d] := by
  rw [written, h]
  rfl

theorem written_of_error {e : EncodeError} (h : m.encode = .error e) : m.written = [] := by
  rw [written, h]
  rfl

end Message

end PrefixDelegation
