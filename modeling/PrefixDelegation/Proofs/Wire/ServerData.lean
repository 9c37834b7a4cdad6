import PrefixDelegation.Proofs.Wire.HiddenNetworks
import PrefixDelegation.Proofs.Wire.OptionList

/-!
# Server data survives the wire

What a client wants from a server stands in two kinds of options: associations with the networks
that they delegate, and lists of name servers. A server writes any number of them, in any order and
with other options in between. Here a message is what the server means by it (`ServerOption`), and
`Message.decode_server_message` says that a client reads just that: the associations, one by one,
with their numbers, timers and networks, and the addresses of all lists, one list after the other.

An association lists its networks one behind the other. A network ends its chain, and what follows
it is read as the rest of the list, so that each of them becomes an element of its own
(`Wire.elements_networks`); and a hundred of them are not too many.
-/

namespace PrefixDelegation

namespace Wire

/-! ### Associations -/

/-- A list of networks is read network by network. -/
theorem elements_networks (ps : List NetworkOption) :
    elements true (SubOption.octetsOf (ps.map .network)) =
      ps.map fun p => Element.option p.octets := by
  induction ps with
  | nil => simp [SubOption.octetsOf, elements, extent?, Layout.extent?]
  | cons p ps ih =>
    -- the network ends its chain, so that the rest of the list is listed again
    have hends : endsChain (codeOf p.octets) = true := by
      rw [p.codeOf_octets]
      decide
    rw [List.map_cons, SubOption.elements_octetsOf_cons, SubOption.octets, hends, ih]
    rfl

/-- All networks of a list of networks are shown. -/
theorem shownIn_networks (ps : List NetworkOption) :
    SubOption.shownIn true (ps.map .network) = ps := by
  induction ps with
  | nil => rfl
  | cons p ps ih =>
    rw [List.map_cons, SubOption.shownIn, ih]

/-- The length of a list of networks. -/
theorem length_octetsOf_networks (ps : List NetworkOption) :
    (SubOption.octetsOf (ps.map .network)).length = 29 * ps.length := by
  induction ps with
  | nil => rfl
  | cons p ps ih =>
    have hp : p.octets.length = 29 := by
      rw [NetworkOption.octets, length_compose, p.length_body]
    rw [SubOption.octetsOf, List.map_cons, List.flatMap_cons, ← SubOption.octetsOf,
      List.length_append, ih, SubOption.octets, hp, List.length_cons]
    omega

/-- An association as a server writes it: its number, its timers, and at most a hundred networks. -/
structure AssociationOption where
  iaid : Nat
  renewAfter : Nat
  rebindAfter : Nat
  networks : List NetworkOption
  iaid_lt : iaid < 256 ^ 4
  renewAfter_lt : renewAfter < 256 ^ 4
  rebindAfter_lt : rebindAfter < 256 ^ 4
  length_le : networks.length ≤ 100

namespace AssociationOption

/-- The octets of the networks. -/
def listOctets (a : AssociationOption) : Octets := SubOption.octetsOf (a.networks.map .network)

/-- What stands behind the header of an association. -/
def body (a : AssociationOption) : Octets :=
  Octets.ofNat 4 a.iaid ++ Octets.ofNat 4 a.renewAfter ++ Octets.ofNat 4 a.rebindAfter ++
    a.listOctets

/-- The octets of an association. -/
def octets (a : AssociationOption) : Octets := (DhcpOption.compose 25 a.body).octets

/-- The association that is meant. -/
def association (a : AssociationOption) : Association :=
  ⟨a.iaid, a.renewAfter, a.rebindAfter, a.networks.map NetworkOption.delegated⟩

variable (a : AssociationOption)

theorem length_body : a.body.length = 12 + 29 * a.networks.length := by
  rw [body, List.length_append, listOctets, length_octetsOf_networks]
  simp

@[simp] theorem codeOf_octets : codeOf a.octets = 25 := codeOf_compose 25 a.body

/-- The networks stand behind the header and the three fixed fields. -/
theorem drop_octets : a.octets.drop 16 = a.listOctets := by
  simp [octets, DhcpOption.compose, body, List.drop_append, List.drop_eq_nil_of_le]

/-- An association does not hold too many options. -/
theorem not_isCrowded : ¬ isCrowded a.octets a.octets.length := by
  have hlayout : Layout.ofCode 25 = .holding 12 := by decide
  have hheld : heldBy a.octets a.octets.length = a.listOctets := by
    rw [heldBy, codeOf_octets, hlayout, List.take_length]
    exact a.drop_octets
  have hfew := a.length_le
  rw [isCrowded, hheld, listOctets, elements_networks, List.length_map]
  simp [elementLimit, hfew]

/-- An association is a complete option, and others can stand behind it. -/
theorem isLink : IsLink a.octets where
  toIsComplete := by
    have hlength := a.length_body
    have hfew := a.length_le
    refine isComplete_compose (by omega) ?_ a.not_isCrowded
    change 12 ≤ a.body.length
    omega
  goes_on := by simp

/-- **An association is read as it was meant.** -/
theorem association_ofRead : (DhcpOption.ofRead a.octets).association = .ok a.association := by
  -- each field is read from the place it was written to
  have hfields : DhcpOption.field a.octets 4 = Octets.toNat (Octets.ofNat 4 a.iaid) ∧
      DhcpOption.field a.octets 8 = Octets.toNat (Octets.ofNat 4 a.renewAfter) ∧
      DhcpOption.field a.octets 12 = Octets.toNat (Octets.ofNat 4 a.rebindAfter) := by
    simp [DhcpOption.field, octets, DhcpOption.compose, body, List.drop_append,
      List.drop_eq_nil_of_le]
  rw [Octets.toNat_ofNat a.iaid_lt, Octets.toNat_ofNat a.renewAfter_lt,
    Octets.toNat_ofNat a.rebindAfter_lt] at hfields
  obtain ⟨hiaid, hrenew, hrebind⟩ := hfields
  have hread := DhcpOption.association_of_subs (o := .ofRead a.octets) a.drop_octets
  rw [shownIn_networks] at hread
  rw [hread]
  simp only [DhcpOption.ofRead, hiaid, hrenew, hrebind, association]

end AssociationOption

/-! ### Lists of name servers -/

/-- Addresses of sixteen octets are found again in what they are put together to. -/
theorem splitAddresses_flatten {addresses : List Octets} (h : ∀ a ∈ addresses, a.length = 16) :
    DhcpOption.splitAddresses addresses.length addresses.flatten = addresses := by
  induction addresses with
  | nil => rfl
  | cons a addresses ih =>
    have ha : a.length = 16 := h a List.mem_cons_self
    have hrest := ih fun a' ha' => h a' (List.mem_cons_of_mem a ha')
    rw [List.length_cons, DhcpOption.splitAddresses, List.flatten_cons, List.take_left' ha,
      List.drop_left' ha, hrest]

/-- Addresses of sixteen octets take that many each. -/
theorem length_flatten_addresses {addresses : List Octets} (h : ∀ a ∈ addresses, a.length = 16) :
    addresses.flatten.length = 16 * addresses.length := by
  induction addresses with
  | nil => rfl
  | cons a addresses ih =>
    have ha : a.length = 16 := h a List.mem_cons_self
    have hrest := ih fun a' ha' => h a' (List.mem_cons_of_mem a ha')
    rw [List.flatten_cons, List.length_append, ha, hrest, List.length_cons]
    omega

/-- A list of name servers as a server writes it: any addresses, as far as their length can be
declared. -/
structure NameServersOption where
  addresses : List Octets
  length_eq : ∀ a ∈ addresses, a.length = 16
  length_lt : 16 * addresses.length < 256 ^ 2

namespace NameServersOption

/-- The octets of a list of name servers. -/
def octets (n : NameServersOption) : Octets := (DhcpOption.compose 23 n.addresses.flatten).octets

variable (n : NameServersOption)

@[simp] theorem codeOf_octets : codeOf n.octets = 23 := codeOf_compose 23 _

/-- A list of name servers is a complete option, and others can stand behind it. -/
theorem isLink : IsLink n.octets where
  toIsComplete := by
    have hlength := length_flatten_addresses n.length_eq
    have hfits := n.length_lt
    have hlayout : Layout.ofCode 23 = .addresses := by decide
    refine isComplete_compose (by omega) ?_ (not_isCrowded_of_heldBy ?_)
    · rw [hlength]
      exact Nat.dvd_mul_right 16 _
    · change heldBy n.octets n.octets.length = []
      rw [heldBy, codeOf_octets, hlayout]
  goes_on := by simp

/-- **A list of name servers is read as it was meant.** -/
theorem addresses_ofRead : (DhcpOption.ofRead n.octets).addresses = n.addresses := by
  have hbody : (DhcpOption.ofRead n.octets).body = n.addresses.flatten := by
    simp [DhcpOption.body, DhcpOption.ofRead, octets, DhcpOption.compose, List.drop_append,
      List.drop_eq_nil_of_le]
  have hcount : n.addresses.flatten.length / 16 = n.addresses.length := by
    rw [length_flatten_addresses n.length_eq]
    omega
  rw [DhcpOption.addresses, hbody, hcount, splitAddresses_flatten n.length_eq]

end NameServersOption

/-! ### Messages of a server -/

/-- An option as a server means it. -/
inductive ServerOption where
  | association (a : AssociationOption)
  | nameServers (n : NameServersOption)
  /-- An option of another kind, which is complete. -/
  | other (octets : Octets) (isLink : IsLink octets)
    (other : codeOf octets ≠ 25 ∧ codeOf octets ≠ 23)

namespace ServerOption

/-- The octets of an option. -/
def octets : ServerOption → Octets
  | .association a => a.octets
  | .nameServers n => n.octets
  | .other octets _ _ => octets

/-- The association in an option, if it has one. -/
def association? : ServerOption → Option Association
  | .association a => some a.association
  | .nameServers _ | .other _ _ _ => none

/-- The addresses of name servers in an option. -/
def addresses : ServerOption → List Octets
  | .nameServers n => n.addresses
  | .association _ | .other _ _ _ => []

/-- An option that was read is of the kind of its code. -/
theorem isA_withCode (o : ServerOption) (code : Nat) :
    (DhcpOption.ofRead o.octets).isA (.withCode code) = true ↔ codeOf o.octets = code :=
  beq_iff_eq

/-- Whatever a server writes is complete, and others can stand behind it. -/
theorem isLink (o : ServerOption) : IsLink o.octets := by
  cases o with
  | association a => exact a.isLink
  | nameServers n => exact n.isLink
  | other octets isLink _ => exact isLink

end ServerOption

end Wire

namespace Message

open Wire

/-- The associations among options that were read, in order. -/
theorem mapM_association_ofRead (os : List ServerOption) :
    (((os.map ServerOption.octets).map DhcpOption.ofRead).filter (·.isA delegation)).mapM
      (·.association) = .ok (os.filterMap ServerOption.association?) := by
  induction os with
  | nil => rfl
  | cons o os ih =>
    have hkind : (DhcpOption.ofRead o.octets).isA delegation = true ↔ codeOf o.octets = 25 :=
      o.isA_withCode 25
    rw [List.map_cons, List.map_cons, List.filter_cons]
    cases o with
    | association a =>
      -- the association comes first, and then those of the rest
      rw [if_pos (hkind.mpr a.codeOf_octets),
        List.mapM_cons, ServerOption.octets, a.association_ofRead, ih]
      rfl
    | nameServers n =>
      have hcode : codeOf n.octets ≠ 25 := by simp
      rw [if_neg (mt hkind.mp hcode), ih]
      rfl
    | other octets _ hother =>
      rw [if_neg (mt hkind.mp hother.1), ih]
      rfl

/-- The addresses among options that were read, in order. -/
theorem flatMap_addresses_ofRead (os : List ServerOption) :
    (((os.map ServerOption.octets).map DhcpOption.ofRead).filter (·.isA (.withCode 23))).flatMap
      (·.addresses) = os.flatMap ServerOption.addresses := by
  induction os with
  | nil => rfl
  | cons o os ih =>
    have hkind := o.isA_withCode 23
    rw [List.map_cons, List.map_cons, List.filter_cons]
    cases o with
    | association a =>
      have hcode : codeOf a.octets ≠ 23 := by simp
      rw [if_neg (mt hkind.mp hcode), ih]
      rfl
    | nameServers n =>
      -- the addresses of the list come first, and then those of the rest
      rw [if_pos (hkind.mpr n.codeOf_octets),
        List.flatMap_cons, ServerOption.octets, n.addresses_ofRead, ih]
      rfl
    | other octets _ hother =>
      rw [if_neg (mt hkind.mp hother.2), ih]
      rfl

/-- **Server data survives the wire.** Let a server write associations with at most a hundred
networks each, lists of name servers and other complete options, in any order and number. A client
reads the associations in that order, with the numbers, timers and networks they were written with,
and the name servers of all lists, one list after the other. -/
theorem decode_server_message (type : MessageType) (xid : TransactionId) (os : List ServerOption)
    (htype : IsExchanged type.toNat) :
    ∃ m, decode (datagram type xid (os.map ServerOption.octets)) = .ok m ∧
      m.associations = .ok (os.filterMap ServerOption.association?) ∧
      m.nameServers = (os.flatMap ServerOption.addresses).map Address.ipv6Text := by
  have hos : ∀ octets ∈ os.map ServerOption.octets, IsLink octets := by
    intro octets hmem
    obtain ⟨o, -, rfl⟩ := List.mem_map.mp hmem
    exact o.isLink
  refine ⟨_, decode_datagram htype xid hos, mapM_association_ofRead os, ?_⟩
  rw [← flatMap_addresses_ofRead, List.map_flatMap]
  rfl

/-- An association with as many networks as there may be, all the same. -/
def fullAssociation : AssociationOption where
  iaid := 1
  renewAfter := 1800
  rebindAfter := 2880
  networks := List.replicate 100 smallNetwork
  iaid_lt := by decide
  renewAfter_lt := by decide
  rebindAfter_lt := by decide
  length_le := Nat.le_of_eq List.length_replicate

/-- An association that asks for the earliest renewal and delegates nothing. -/
def emptyAssociation : AssociationOption where
  iaid := 256 ^ 4 - 1
  renewAfter := 0
  rebindAfter := 0
  networks := []
  iaid_lt := by decide
  renewAfter_lt := by decide
  rebindAfter_lt := by decide
  length_le := Nat.zero_le _

/-- A list of name servers of which there is one, or none. -/
def nameServerIf (any : Bool) : NameServersOption where
  addresses := if any then [Octets.ofNat 16 0x20010db8] else []
  length_eq := by
    intro a ha
    cases any with
    | false => cases ha
    | true => rw [List.mem_singleton.mp ha, Octets.length_ofNat]
  length_lt := by cases any <;> decide

/-- The options of a Reply: two associations, an empty list of name servers and one that is not, and
a preference between them. -/
def grantedOptions : List ServerOption :=
  [.nameServers (nameServerIf false), .association fullAssociation,
    .other [0, 7, 0, 1, 255] (by decide +kernel) (by decide), .nameServers (nameServerIf true),
    .association emptyAssociation]

/-- The Reply is read as it was meant. -/
theorem decode_server_message_of_reply :
    IsExchanged MessageType.reply.toNat ∧
      ∃ m, decode (datagram .reply default (grantedOptions.map ServerOption.octets)) = .ok m ∧
        m.associations = .ok [⟨1, 1800, 2880, List.replicate 100 smallNetwork.delegated⟩,
          ⟨256 ^ 4 - 1, 0, 0, []⟩] ∧
        m.nameServers = [Address.ipv6Text (Octets.ofNat 16 0x20010db8)] := by
  have htype : IsExchanged MessageType.reply.toNat := by decide
  obtain ⟨m, hm, hassociations, hservers⟩ :=
    decode_server_message .reply default grantedOptions htype
  exact ⟨htype, m, hm, hassociations, hservers⟩

end Message

end PrefixDelegation
