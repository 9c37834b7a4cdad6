import PrefixDelegation.Proofs.Wire.Lossless
import PrefixDelegation.Proofs.Wire.Whole

/-!
# Messages made of complete options

A sender puts complete options behind a header, one behind the other. They are read as what they
are: a complete option takes its own octets and no others (`Wire.IsComplete.isWhole`), so the chain
goes on behind each of them until nothing is left (`Wire.Chain.read_flatten`). Two options could not
be followed by others, since they end the chain; they belong into lists and not into a message.

`Message.decode_options` says what comes of such a datagram: the options, all of them and in order,
with nothing behind them. An option is looked for by its kind, which its code decides, and what is
found is the first option of that kind (`Wire.IsFirst`).
-/

namespace PrefixDelegation

namespace Wire

/-! ### Chains of complete options -/

/-- A complete option that does not end the chain it stands in. -/
structure IsLink (o : Octets) : Prop extends IsComplete o where
  goes_on : codeOf o ≠ 5 ∧ codeOf o ≠ 26

instance (o : Octets) : Decidable (IsLink o) :=
  decidable_of_iff (IsComplete o ∧ codeOf o ≠ 5 ∧ codeOf o ≠ 26)
    ⟨fun ⟨hcomplete, hcode⟩ => ⟨hcomplete, hcode⟩, fun h => ⟨h.toIsComplete, h.goes_on⟩⟩

/-- A link does not end its chain. -/
theorem IsLink.not_endsChain {o : Octets} (h : IsLink o) : ¬ endsChain (codeOf o) := by
  obtain ⟨hfive, htwentySix⟩ := h.goes_on
  simp [endsChain, hfive, htwentySix]

/-- **Complete options at the front of a chain are read as they are**, and reading goes on behind
them. -/
theorem Chain.read_flatten_append {os : List Octets} (h : ∀ o ∈ os, IsLink o) (rest : Octets) :
    Chain.read (os.flatten ++ rest)
      = ⟨os ++ (Chain.read rest).options, (Chain.read rest).tail⟩ := by
  induction os with
  | nil => rfl
  | cons o os ih =>
    have ho : IsLink o := h o List.mem_cons_self
    have hos : ∀ o' ∈ os, IsLink o' := fun o' ho' => h o' (List.mem_cons_of_mem o ho')
    rw [List.flatten_cons, List.append_assoc,
      Chain.read_append ho.isWhole ho.not_crowded ho.not_endsChain, ih hos]
    rfl

/-- There is nothing to read in no octets. -/
theorem Chain.read_nil : Chain.read [] = ⟨[], .nothing⟩ := by
  simp [Chain.read, extent?, Layout.extent?, Tail.ofRaw]

/-- **A chain of complete options is read as it is**, and nothing is left behind it. -/
theorem Chain.read_flatten {os : List Octets} (h : ∀ o ∈ os, IsLink o) :
    Chain.read os.flatten = ⟨os, .nothing⟩ := by
  have hread := Chain.read_flatten_append h []
  rw [Chain.read_nil, List.append_nil, List.append_nil] at hread
  exact hread

/-! ### The first option of a kind -/

/-- Whether the octets of an option are those of one of a kind. -/
def OptionKind.Covers (kind : OptionKind) (o : Octets) : Prop := (DhcpOption.ofRead o).isA kind

instance (kind : OptionKind) (o : Octets) : Decidable (kind.Covers o) :=
  inferInstanceAs (Decidable ((DhcpOption.ofRead o).isA kind = true))

/-- The first of some options that is of a kind. -/
def IsFirst (kind : OptionKind) (os : List Octets) (o : Octets) : Prop :=
  ∃ before after, os = before ++ o :: after ∧ kind.Covers o ∧ ∀ p ∈ before, ¬ kind.Covers p

/-- The first option of a kind is the one that a search for the kind comes to. -/
theorem isFirst_iff {kind : OptionKind} {os : List Octets} {o : Octets} :
    IsFirst kind os o ↔ os.find? (fun p => (DhcpOption.ofRead p).isA kind) = some o := by
  rw [List.find?_eq_some_iff_append]
  constructor
  · rintro ⟨before, after, heq, hcovers, hbefore⟩
    refine ⟨hcovers, before, after, heq, fun p hp => ?_⟩
    simpa [OptionKind.Covers] using hbefore p hp
  · rintro ⟨hcovers, before, after, heq, hbefore⟩
    refine ⟨before, after, heq, hcovers, fun p hp => ?_⟩
    simpa [OptionKind.Covers] using hbefore p hp

/-- If there is one of a kind, there is a first one. -/
theorem exists_isFirst_iff {kind : OptionKind} {os : List Octets} :
    (∃ o, IsFirst kind os o) ↔ ∃ o ∈ os, kind.Covers o := by
  simp only [isFirst_iff]
  rw [← Option.isSome_iff_exists, List.find?_isSome]
  rfl

end Wire

namespace Message

open Wire

variable {m : Message} {os : List Octets}

/-- What is found is the first option of the kind, by itself. -/
theorem firstOption?_eq_some_iff (h : m.options = os.map .ofRead) {kind : OptionKind}
    {found : DhcpOption} :
    m.firstOption? kind = some found ↔ ∃ o, IsFirst kind os o ∧ found = .ofRead o := by
  have hfind : m.firstOption? kind
      = (os.find? fun o => (DhcpOption.ofRead o).isA kind).map .ofRead := by
    rw [firstOption?, h, List.find?_map]
    rfl
  rw [hfind, Option.map_eq_some_iff]
  constructor
  · rintro ⟨o, ho, rfl⟩
    exact ⟨o, isFirst_iff.mpr ho, rfl⟩
  · rintro ⟨o, ho, rfl⟩
    exact ⟨o, isFirst_iff.mp ho, rfl⟩

/-- An option of a kind is there exactly if there is a first one. -/
theorem hasOption_iff (h : m.options = os.map .ofRead) {kind : OptionKind} :
    m.hasOption kind ↔ ∃ o, IsFirst kind os o := by
  rw [exists_isFirst_iff, hasOption, h, List.any_map, List.any_eq_true]
  rfl

/-! ### Datagrams of complete options -/

/-- Behind a header, the rest of a datagram is read as a chain. -/
theorem decode_header {type : MessageType} (htype : IsExchanged type.toNat) (xid : TransactionId)
    (rest : Octets) :
    decode (UInt8.ofNat type.toNat :: Octets.ofNat 3 xid.val ++ rest)
      = .ok ⟨type, xid, (Chain.read rest).options.map .ofRead, (Chain.read rest).tail, []⟩ := by
  -- the header is read as it was written
  have hnumber : (UInt8.ofNat type.toNat).toNat = type.toNat := by
    cases type <;> rfl
  have hxid : TransactionId.ofNat (Octets.toNat (Octets.ofNat 3 xid.val)) = xid := by
    have hlt : xid.val < 256 ^ 3 := xid.val_lt
    rw [Octets.toNat_ofNat hlt, TransactionId.ofNat, TransactionId.mk.injEq]
    exact Nat.mod_eq_of_lt xid.val_lt
  have hof : MessageType.ofNat? (UInt8.ofNat type.toNat).toNat = some type := by
    rw [hnumber, MessageType.ofNat?_toNat]
  have hread := decode_of_isExchanged (UInt8.ofNat (xid.val / 256 / 256))
    (UInt8.ofNat (xid.val / 256)) (UInt8.ofNat xid.val) rest hof htype
  change decode (UInt8.ofNat type.toNat :: Octets.ofNat 3 xid.val ++ rest)
    = .ok ⟨type, TransactionId.ofNat (Octets.toNat (Octets.ofNat 3 xid.val)),
      (Chain.read rest).options.map .ofRead, (Chain.read rest).tail, []⟩ at hread
  rw [hread, hxid]

/-- The datagram with a header and some options. -/
def datagram (type : MessageType) (xid : TransactionId) (os : List Octets) : Octets :=
  UInt8.ofNat type.toNat :: Octets.ofNat 3 xid.val ++ os.flatten

/-- The message in that datagram. -/
def messageOf (type : MessageType) (xid : TransactionId) (os : List Octets) : Message :=
  ⟨type, xid, os.map .ofRead, .nothing, []⟩

/-- A datagram of complete options is the message with these options. -/
theorem decode_datagram {type : MessageType} (htype : IsExchanged type.toNat) (xid : TransactionId)
    (hos : ∀ o ∈ os, IsLink o) : decode (datagram type xid os) = .ok (messageOf type xid os) := by
  have hread := decode_header htype xid os.flatten
  rw [Chain.read_flatten hos] at hread
  exact hread

/-- **Reading recovers complete options.** Behind the header of a message, let there be complete
options of any codes, in any order and number, of which none ends the chain. The datagram is a
message with that header and exactly these options, and there is nothing behind them. An option of a
kind is found if there is one, and what is found is the first of that kind, without the others. -/
theorem decode_options (type : MessageType) (xid : TransactionId) (os : List Octets)
    (htype : IsExchanged type.toNat) (hos : ∀ o ∈ os, IsLink o) :
    ∃ m, decode (datagram type xid os) = .ok m ∧ m.type = type ∧ m.xid = xid ∧
      m.options.map (·.octets) = os ∧ m.tail = .nothing ∧ m.hidden = [] ∧
      ∀ kind, (m.hasOption kind ↔ ∃ o, IsFirst kind os o) ∧
        ∀ found, m.firstOption? kind = some found ↔ ∃ o, IsFirst kind os o ∧ found = .ofRead o := by
  have hoctets : (os.map DhcpOption.ofRead).map (·.octets) = os := by
    rw [List.map_map]
    exact List.map_id os
  exact ⟨messageOf type xid os, decode_datagram htype xid hos, rfl, rfl, hoctets, rfl, rfl,
    fun kind => ⟨hasOption_iff rfl, fun found => firstOption?_eq_some_iff rfl⟩⟩

/-- The option of an association that lists a network and a status code. -/
def advertisedDelegation : Octets :=
  [0, 25, 0, 47, 0, 0, 0, 1, 0, 0, 14, 16, 0, 0, 28, 32, 0, 26, 0, 25, 0, 0, 14, 16, 0, 0, 28, 32,
    56, 32, 1, 13, 184, 0, 0, 0, 0, 0, 0, 0, 0, 0, 0, 0, 0, 0, 13, 0, 2, 0, 0]

/-- What else stands in a small Advertise behind that option: an association with nothing in it, two
name servers, a preference, and an option whose code says nothing. -/
def advertisedRest : List Octets :=
  [[0, 25, 0, 12, 0, 0, 0, 2, 0, 0, 0, 0, 0, 0, 0, 0],
    [0, 23, 0, 32, 32, 1, 13, 184, 0, 0, 0, 0, 0, 0, 0, 0, 0, 0, 0, 1,
      32, 1, 13, 184, 0, 0, 0, 0, 0, 0, 0, 0, 0, 0, 0, 2],
    [0, 7, 0, 1, 255],
    [0, 199, 0, 3, 1, 2, 3]]

/-- The options of a small Advertise. In front is the identifier of the server. -/
def advertisedOptions : List Octets :=
  [0, 2, 0, 4, 0, 3, 0, 1] :: advertisedDelegation :: advertisedRest

/-- The small Advertise has its options, and the first delegation is found by itself. -/
theorem decode_options_of_advertise :
    IsExchanged MessageType.advertise.toNat ∧ (∀ o ∈ advertisedOptions, IsLink o) ∧
      ∃ m, decode (datagram .advertise default advertisedOptions) = .ok m ∧
        m.options.map (·.octets) = advertisedOptions ∧
        m.firstOption? delegation = some (.ofRead advertisedDelegation) := by
  have htype : IsExchanged MessageType.advertise.toNat := by decide
  have hos : ∀ o ∈ advertisedOptions, IsLink o := by decide +kernel
  obtain ⟨m, hm, -, -, hoctets, -, -, hkinds⟩ :=
    decode_options .advertise default advertisedOptions htype hos
  have hfirst : IsFirst delegation advertisedOptions advertisedDelegation :=
    ⟨[[0, 2, 0, 4, 0, 3, 0, 1]], advertisedRest, rfl, by decide, by decide⟩
  exact ⟨htype, hos, m, hm, hoctets, ((hkinds delegation).2 _).mpr ⟨_, hfirst, rfl⟩⟩

end Message

end PrefixDelegation
