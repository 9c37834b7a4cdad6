import PrefixDelegation.Proofs.Wire.Delegation
import PrefixDelegation.Proofs.Wire.Whole

/-!
# Networks hidden behind a status code

A server lists the networks that it delegates inside the option of an association, and may put
status codes between them, in any order. Both are whole options, so the list is read option by
option. But a status code does not end the chain that it belongs to, while a network does: the
network that stands directly behind a status code is read as a part of that chain and becomes no
element of the list. It is *hidden*, and the association does not report it.

`shownIn` says which networks of such a list are shown, and
`Message.associations_list_all_iff` says that they are what is reported, and when nothing is
hidden: exactly if no network stands directly behind a status code.
-/

namespace PrefixDelegation

namespace Wire

/-! ### Networks and status codes as options -/

/-- A network as a server writes it: its lifetimes, its length and its address. -/
structure NetworkOption where
  preferred : Nat
  valid : Nat
  length : Nat
  address : Nat
  preferred_lt : preferred < 256 ^ 4
  valid_lt : valid < 256 ^ 4
  length_le : length ≤ 128
  address_lt : address < 256 ^ 16

namespace NetworkOption

/-- What stands behind the header of a network. -/
def body (p : NetworkOption) : Octets :=
  Octets.ofNat 4 p.preferred ++ Octets.ofNat 4 p.valid ++ Octets.ofNat 1 p.length ++
    Octets.ofNat 16 p.address

/-- The octets of a network. -/
def octets (p : NetworkOption) : Octets := (DhcpOption.compose 26 p.body).octets

/-- The network that is delegated. -/
def delegated (p : NetworkOption) : DelegatedNetwork :=
  ⟨⟨.ipv6, p.address, p.length, p.address_lt, p.length_le⟩, p.preferred, p.valid⟩

variable (p : NetworkOption)

@[simp] theorem length_body : p.body.length = 25 := by
  simp [body]

@[simp] theorem codeOf_octets : codeOf p.octets = 26 := codeOf_compose 26 p.body

/-- A network holds no options. -/
theorem not_isCrowded : ¬ isCrowded p.octets p.octets.length := by
  have hlength : p.octets.length = 29 := by rw [octets, length_compose, length_body]
  have hlayout : Layout.ofCode 26 = .holding 25 := by decide
  apply not_isCrowded_of_heldBy
  rw [heldBy, codeOf_octets, hlayout]
  simp [hlength]

/-- A network is a complete option. -/
theorem isComplete : IsComplete p.octets := by
  refine isComplete_compose ?_ ?_ p.not_isCrowded
  · rw [length_body]
    decide
  · rw [length_body]
    decide

/-- The octets of a network describe it. -/
theorem ofOctets_octets : DelegatedNetwork.ofOctets p.octets = .ok p.delegated := by
  -- each field is read from the place it was written to
  have haddress : Octets.toNat ((p.octets.drop 13).take 16) = p.address := by
    rw [← Octets.toNat_ofNat p.address_lt]
    simp [octets, DhcpOption.compose, body, List.drop_append, List.drop_eq_nil_of_le,
      List.take_of_length_le]
  have hlength : Octets.toNat ((p.octets.drop 12).take 1) = p.length := by
    have hfits : p.length < 256 ^ 1 := Nat.lt_of_le_of_lt p.length_le (by decide)
    rw [← Octets.toNat_ofNat hfits]
    simp [octets, DhcpOption.compose, body, List.drop_append, List.drop_eq_nil_of_le]
  have hpreferred : DhcpOption.field p.octets 4 = p.preferred := by
    rw [← Octets.toNat_ofNat p.preferred_lt]
    simp [DhcpOption.field, octets, DhcpOption.compose, body, List.drop_append,
      List.drop_eq_nil_of_le]
  have hvalid : DhcpOption.field p.octets 8 = p.valid := by
    rw [← Octets.toNat_ofNat p.valid_lt]
    simp [DhcpOption.field, octets, DhcpOption.compose, body, List.drop_append,
      List.drop_eq_nil_of_le]
  -- and together they are within the bounds of a network
  have hmake : Address.Network.make? .ipv6 p.address p.length = some p.delegated.network := by
    rw [Address.Network.make?, dif_pos ⟨p.address_lt, p.length_le, Int.natCast_nonneg _⟩]
    rfl
  rw [DelegatedNetwork.ofOctets, haddress, hlength, hmake, hpreferred, hvalid]
  rfl

end NetworkOption

/-- A status code as a server writes it: the code and what is said about it. -/
structure StatusOption where
  data : Octets
  two_le : 2 ≤ data.length
  length_lt : data.length < 256 ^ 2

namespace StatusOption

/-- The octets of a status code. -/
def octets (s : StatusOption) : Octets := (DhcpOption.compose 13 s.data).octets

variable (s : StatusOption)

@[simp] theorem codeOf_octets : codeOf s.octets = 13 := codeOf_compose 13 s.data

/-- A status code holds no options. -/
theorem not_isCrowded : ¬ isCrowded s.octets s.octets.length := by
  have hlayout : Layout.ofCode 13 = .data 2 := by decide
  apply not_isCrowded_of_heldBy
  rw [heldBy, codeOf_octets, hlayout]

/-- A status code is a complete option. -/
theorem isComplete : IsComplete s.octets :=
  isComplete_compose s.length_lt s.two_le s.not_isCrowded

end StatusOption

/-! ### Lists of them -/

/-- What a server lists in the option of an association. -/
inductive SubOption where
  | network (p : NetworkOption)
  | status (s : StatusOption)

namespace SubOption

/-- The octets of a listed option. -/
def octets : SubOption → Octets
  | .network p => p.octets
  | .status s => s.octets

/-- The octets of a list. -/
def octetsOf (subs : List SubOption) : Octets := subs.flatMap octets

/-- The networks in a list, in order. -/
def networksIn (subs : List SubOption) : List NetworkOption :=
  subs.filterMap fun
    | .network p => some p
    | .status _ => none

/-- The networks in a list that are shown: those that do not stand directly behind a status code.
With `listed` false the list itself stands behind one. -/
def shownIn : (listed : Bool) → List SubOption → List NetworkOption
  | _, [] => []
  | _, .status _ :: subs => shownIn false subs
  | true, .network p :: subs => p :: shownIn true subs
  | false, .network _ :: subs => shownIn true subs

/-- In no place of a list a network stands directly behind a status code. -/
def NoneHidden (subs : List SubOption) : Prop := ∀ s p, ¬ [.status s, .network p] <:+: subs

/-- A list is read option by option. Where elements are listed, the first option is one; what
follows is listed if the first option ends its chain. -/
theorem elements_octetsOf_cons (listed : Bool) (sub : SubOption) (subs : List SubOption) :
    elements listed (octetsOf (sub :: subs)) =
      (if listed then [.option sub.octets] else []) ++
        elements (endsChain (codeOf sub.octets)) (octetsOf subs) := by
  cases sub with
  | network p =>
    have hcode : isListable (codeOf p.octets) := by
      rw [p.codeOf_octets]
      decide
    exact elements_append p.isComplete.isWhole hcode p.not_isCrowded
  | status s =>
    have hcode : isListable (codeOf s.octets) := by
      rw [s.codeOf_octets]
      decide
    exact elements_append s.isComplete.isWhole hcode s.not_isCrowded

/-- The networks among the elements of a list are those that are shown. -/
theorem networksAmong_elements (listed : Bool) (subs : List SubOption) :
    networksAmong (elements listed (octetsOf subs)) =
      (shownIn listed subs).map NetworkOption.octets := by
  -- `listed` is general, since every option decides how the next one is read
  induction subs generalizing listed with
  | nil => simp [octetsOf, elements, extent?, Layout.extent?, networksAmong, shownIn]
  | cons sub subs ih =>
    rw [elements_octetsOf_cons, networksAmong, List.filterMap_append, ← networksAmong,
      ← networksAmong, ih]
    cases sub with
    | network p =>
      -- a network ends its chain, so what follows it is listed
      have hends : endsChain (codeOf p.octets) = true := by
        rw [p.codeOf_octets]
        decide
      rw [octets, hends]
      cases listed <;> simp [networksAmong, shownIn]
    | status s =>
      -- a status code is no network and does not end its chain
      have hends : endsChain (codeOf s.octets) = false := by
        rw [s.codeOf_octets]
        decide
      rw [octets, hends]
      cases listed <;> simp [networksAmong, shownIn]

/-! ### When nothing is hidden -/

/-- No more is shown than there is. -/
theorem length_shownIn_le (listed : Bool) (subs : List SubOption) :
    (shownIn listed subs).length ≤ (networksIn subs).length := by
  induction subs generalizing listed with
  | nil => exact Nat.le_refl 0
  | cons sub subs ih =>
    cases sub with
    | network p =>
      have htail := ih true
      cases listed
      · exact Nat.le_succ_of_le htail
      · exact Nat.succ_le_succ htail
    | status s => exact ih false

/-- A network at the front hides nothing. -/
theorem noneHidden_network_cons {p : NetworkOption} {subs : List SubOption} :
    NoneHidden (.network p :: subs) ↔ NoneHidden subs := by
  simp [NoneHidden, List.infix_cons_iff]

/-- A status code at the front hides a network that stands at the front of the rest. -/
theorem noneHidden_status_cons {s : StatusOption} {subs : List SubOption} :
    NoneHidden (.status s :: subs) ↔ (∀ p, ¬ [.network p] <+: subs) ∧ NoneHidden subs := by
  constructor
  · intro h
    refine ⟨fun p hfront => h s p ?_, fun s' p hin => h s' p (List.infix_cons hin)⟩
    exact List.infix_cons_iff.mpr (.inl (List.cons_prefix_cons.mpr ⟨rfl, hfront⟩))
  · rintro ⟨hfront, hrest⟩ s' p hin
    rcases List.infix_cons_iff.mp hin with hprefix | htail
    · exact hfront p (List.cons_prefix_cons.mp hprefix).2
    · exact hrest s' p htail

/-- Everything is shown exactly if no network stands behind a status code, be it in the list or in
front of it. -/
theorem shownIn_eq_networksIn_iff (listed : Bool) (subs : List SubOption) :
    shownIn listed subs = networksIn subs ↔
      (listed ∨ ∀ p, ¬ [.network p] <+: subs) ∧ NoneHidden subs := by
  induction subs generalizing listed with
  | nil => simp [shownIn, networksIn, NoneHidden]
  | cons sub subs ih =>
    cases sub with
    | network p =>
      rw [noneHidden_network_cons]
      cases listed
      · -- the network itself is hidden
        have hlength := length_shownIn_le true subs
        constructor
        · intro h
          have hsucc : (shownIn true subs).length = (networksIn subs).length + 1 :=
            congrArg List.length h
          omega
        · rintro ⟨hlisted | hfront, -⟩
          · cases hlisted
          · exact absurd ⟨subs, rfl⟩ (hfront p)
      · have hcons : shownIn true (.network p :: subs) = networksIn (.network p :: subs) ↔
            shownIn true subs = networksIn subs := List.cons_inj_right p
        rw [hcons, ih true]
        simp
    | status s =>
      -- nothing is hidden in front of the status code
      have hcons : shownIn listed (.status s :: subs) = networksIn (.status s :: subs) ↔
          shownIn false subs = networksIn subs := Iff.rfl
      rw [hcons, ih false, noneHidden_status_cons]
      simp

end SubOption

/-- Different networks are delegated differently. -/
theorem NetworkOption.delegated_injective : Function.Injective NetworkOption.delegated := by
  rintro ⟨preferred, valid, length, address, _, _, _, _⟩
    ⟨preferred', valid', length', address', _, _, _, _⟩ h
  simp only [NetworkOption.delegated, DelegatedNetwork.mk.injEq] at h
  obtain ⟨⟨-, rfl, rfl⟩, rfl, rfl⟩ := h
  rfl

/-- **What an association reports.** The option of an association lists networks and status codes;
the networks that are shown are reported, with the timers of the option. -/
theorem DhcpOption.association_of_subs {o : DhcpOption} {subs : List SubOption}
    (h : o.octets.drop 16 = SubOption.octetsOf subs) :
    o.association = .ok ⟨field o.octets 4, field o.octets 8, field o.octets 12,
      (SubOption.shownIn true subs).map NetworkOption.delegated⟩ := by
  have hlisted : o.listed = (SubOption.shownIn true subs).map NetworkOption.octets := by
    rw [listed, h, SubOption.networksAmong_elements]
  have hdescribed : o.listed.mapM DelegatedNetwork.ofOctets =
      .ok ((SubOption.shownIn true subs).map NetworkOption.delegated) := by
    rw [hlisted, mapM_eq_ok_iff, List.forall₂_map_left_iff, List.forall₂_map_right_iff,
      List.forall₂_same]
    exact fun p _ => p.ofOctets_octets
  rw [association_eq, hdescribed]
  rfl

end Wire

namespace Message

open Wire SubOption

/-! ### Two small Replies -/

/-- A network of 56 bits. -/
def smallNetwork : NetworkOption where
  preferred := 3600
  valid := 7200
  length := 56
  address := 0x20010db8 * 256 ^ 12
  preferred_lt := by decide
  valid_lt := by decide
  length_le := by decide
  address_lt := by decide

/-- A status code that says that all is well. -/
def smallStatus : StatusOption where
  data := [0, 0]
  two_le := by decide
  length_lt := by decide

/-- The datagram of a Reply with one delegation. -/
def replyListing (subs : List SubOption) : Octets :=
  [7, 0, 0, 0x22, 0, 25] ++ Octets.ofNat 2 (12 + (octetsOf subs).length) ++
    [0, 0, 0, 1, 0, 0, 14, 16, 0, 0, 28, 32] ++ octetsOf subs

/-- The delegation in that datagram. -/
def delegationListing (subs : List SubOption) : DhcpOption := .ofRead ((replyListing subs).drop 4)

/-- The message in that datagram. -/
def messageListing (subs : List SubOption) : Message :=
  ⟨.reply, .ofNat 0x22, [delegationListing subs], .nothing, []⟩

/-- A network in front of a status code. -/
def networkFirst : List SubOption := [.network smallNetwork, .status smallStatus]

/-- A network behind a status code. -/
def statusFirst : List SubOption := [.status smallStatus, .network smallNetwork]

/-! ### What a message reports -/

/-- **Networks reported by a message.** Let an option of a message carry a delegation and list
networks and status codes, in any order and number. If the associations of the message can be told,
the one in the place of that option has the networks that are shown. They are all the networks of
the list, in order and with repetitions, exactly if no network stands directly behind a status code;
and that the associations can be told at all takes that no delegation of the message is overlong. -/
theorem associations_list_all_iff {m : Message} {i : Nat} {o : DhcpOption} {subs : List SubOption}
    (hi : (m.options.filter (·.isA delegation))[i]? = some o)
    (hbody : o.octets.drop 16 = octetsOf subs) :
    (∀ as, m.associations = .ok as →
      ∃ a, as[i]? = some a ∧ a.networks = (shownIn true subs).map NetworkOption.delegated) ∧
    ((∃ as a, m.associations = .ok as ∧ as[i]? = some a ∧
      a.networks = (networksIn subs).map NetworkOption.delegated) ↔
        ¬ m.IsOverlong ∧ NoneHidden subs) := by
  -- the association stands where its option stands among the delegations
  have hreported : ∀ as, m.associations = .ok as →
      ∃ a, as[i]? = some a ∧ a.networks = (shownIn true subs).map NetworkOption.delegated := by
    intro as has
    obtain ⟨a, hget, ha⟩ := getElem?_of_mapM has hi
    rw [DhcpOption.association_of_subs hbody] at ha
    cases ha
    exact ⟨_, hget, rfl⟩
  have hall : shownIn true subs = networksIn subs ↔ NoneHidden subs := by
    rw [shownIn_eq_networksIn_iff]
    simp
  refine ⟨hreported, ?_, ?_⟩
  · -- all are reported, so as many are shown as there are
    rintro ⟨as, a, has, hget, ha⟩
    obtain ⟨a', hget', ha'⟩ := hreported as has
    rw [hget, Option.some.injEq] at hget'
    rw [← hget', ha] at ha'
    have hsame := List.map_injective_iff.mpr NetworkOption.delegated_injective ha'
    exact ⟨associations_ok_iff.mp ⟨as, has⟩, hall.mp hsame.symm⟩
  · -- nothing is in the way of the associations, and nothing hides a network
    rintro ⟨hshort, hnone⟩
    obtain ⟨as, has⟩ := associations_ok_iff.mpr hshort
    obtain ⟨a, hget, ha⟩ := hreported as has
    exact ⟨as, a, has, hget, by rw [ha, hall.mpr hnone]⟩

/-- A network in front of a status code is reported. -/
theorem associations_list_all_of_networkFirst :
    decode (replyListing networkFirst) = .ok (messageListing networkFirst) ∧
      ∃ as a, (messageListing networkFirst).associations = .ok as ∧ as[0]? = some a ∧
        a.networks = (networksIn networkFirst).map NetworkOption.delegated := by
  have hshort : ¬ (messageListing networkFirst).IsOverlong :=
    associations_ok_iff.mp ⟨[⟨1, 3600, 7200, [smallNetwork.delegated]⟩], by decide +kernel⟩
  have hnone : NoneHidden networkFirst := by
    simp [NoneHidden, networkFirst, List.infix_cons_iff]
  have hbody : (delegationListing networkFirst).octets.drop 16 = octetsOf networkFirst := by
    decide
  exact ⟨by decide +kernel, (associations_list_all_iff (i := 0) rfl hbody).2.mpr ⟨hshort, hnone⟩⟩

/-- A network behind a status code is lost: the Reply is well formed, and its one association
reports nothing. -/
theorem associations_lose_network_of_statusFirst :
    ∃ m o, decode (replyListing statusFirst) = .ok m ∧
      (m.options.filter (·.isA delegation))[0]? = some o ∧
      o.octets.drop 16 = octetsOf statusFirst ∧ statusFirst.length ≤ 100 ∧
      ¬ ∃ as a, m.associations = .ok as ∧ as[0]? = some a ∧
        a.networks = (networksIn statusFirst).map NetworkOption.delegated := by
  have hreported : (messageListing statusFirst).associations = .ok [⟨1, 3600, 7200, []⟩] := by
    decide +kernel
  refine ⟨messageListing statusFirst, delegationListing statusFirst, by decide +kernel,
    by decide, by decide, by decide, ?_⟩
  rintro ⟨as, a, has, hget, ha⟩
  rw [hreported] at has
  cases has
  cases hget
  cases ha

end Message

end PrefixDelegation
