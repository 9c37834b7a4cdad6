import PrefixDelegation.Proofs.Traversal
import PrefixDelegation.Proofs.Wire.BigEndian
import PrefixDelegation.Wire.Message

/-!
# What the delegations of a message report

The networks of an association are those list elements of its option that have the code of a
network (`networksAmong`), each described by its octets. One thing can go wrong: an element may give
a network more bits than an address has. Such an element is *overlong*, and so is an option or a
message that lists one. The associations of a message can be told exactly if it is not overlong
(`Message.associations_ok_iff`), and if it is, what is reported is the text of an overlong network
(`Message.associations_error`).
-/

namespace PrefixDelegation

namespace Wire

/-- The list elements that have the code of a network. -/
def networksAmong (es : List Element) : List Octets :=
  es.filterMap fun
    | .option octets => if codeOf octets = 26 then some octets else none
    | .raw _ => none

/-- An element with the code of a network that gives it more bits than an address has. -/
def IsOverlong (octets : Octets) : Prop := 128 < Octets.toNat ((octets.drop 12).take 1)

/-- The networks that are described are those with the code of a network, in order. -/
theorem delegatedNetworks_eq_mapM (es : List Element) :
    delegatedNetworks es = (networksAmong es).mapM DelegatedNetwork.ofOctets := by
  induction es with
  | nil => rfl
  | cons e es ih =>
    cases e with
    | raw octets => exact ih
    | option octets =>
      rw [delegatedNetworks]
      by_cases hcode : codeOf octets = 26
      · -- the element is described, and then the rest
        rw [if_pos hcode, ih]
        have hhead : networksAmong (.option octets :: es) = octets :: networksAmong es := by
          simp [networksAmong, hcode]
        rw [hhead, List.mapM_cons]
      · -- the element has another code and is passed over
        rw [if_neg hcode, ih]
        have hhead : networksAmong (.option octets :: es) = networksAmong es := by
          simp [networksAmong, hcode]
        rw [hhead]

/-- An element describes a network unless it is overlong, and then its text is reported. -/
theorem DelegatedNetwork.ofOctets_cases (octets : Octets) :
    (¬ IsOverlong octets ∧ ∃ network, DelegatedNetwork.ofOctets octets = .ok network) ∨
      (IsOverlong octets ∧ ∃ text, DelegatedNetwork.ofOctets octets = .error (.invalid text)) := by
  -- sixteen octets always hold an address, so the length decides
  have haddress : Octets.toNat ((octets.drop 13).take 16) < Address.Family.ipv6.size :=
    Octets.toNat_take_lt 16 _
  by_cases hlong : IsOverlong octets
  · right
    have hmake : Address.Network.make? .ipv6 (Octets.toNat ((octets.drop 13).take 16))
        (Octets.toNat ((octets.drop 12).take 1)) = none := by
      rw [Address.Network.make?, dif_neg]
      rintro ⟨-, hlength, -⟩
      exact absurd hlong (Nat.not_lt.mpr hlength)
    rw [DelegatedNetwork.ofOctets, hmake]
    exact ⟨hlong, _, rfl⟩
  · left
    have hlength : Octets.toNat ((octets.drop 12).take 1) ≤ 128 := Nat.not_lt.mp hlong
    rw [DelegatedNetwork.ofOctets, Address.Network.make?,
      dif_pos ⟨haddress, hlength, Int.natCast_nonneg _⟩]
    exact ⟨hlong, _, rfl⟩

/-- An element that describes no network fails with a text. -/
theorem DelegatedNetwork.ofOctets_error {octets : Octets} {e : Address.NetworkError}
    (h : DelegatedNetwork.ofOctets octets = .error e) : ∃ text, e = .invalid text := by
  rcases DelegatedNetwork.ofOctets_cases octets with ⟨-, network, hok⟩ | ⟨-, text, herror⟩
  · rw [hok] at h
    cases h
  · rw [herror] at h
    cases h
    exact ⟨text, rfl⟩

namespace DhcpOption

variable {o : DhcpOption}

/-- The networks that an option lists. -/
def listed (o : DhcpOption) : List Octets := networksAmong (elements true (o.octets.drop 16))

/-- The association in an option, given what comes of its networks. -/
theorem association_eq (o : DhcpOption) :
    o.association = (o.listed.mapM DelegatedNetwork.ofOctets).map fun networks =>
      ⟨field o.octets 4, field o.octets 8, field o.octets 12, networks⟩ := by
  rw [association, delegatedNetworks_eq_mapM, ← listed]
  rcases o.listed.mapM DelegatedNetwork.ofOctets with e | networks
  · rfl
  · rfl

/-- The option lists an overlong network. -/
def IsOverlong (o : DhcpOption) : Prop := ∃ octets ∈ o.listed, Wire.IsOverlong octets

/-- The association in an option can be told unless it lists an overlong network. -/
theorem association_ok_iff : (∃ a, o.association = .ok a) ↔ ¬ o.IsOverlong := by
  -- the timers are always there, so it is the networks that decide
  have hnetworks : (∃ a, o.association = .ok a) ↔
      ∃ networks, o.listed.mapM DelegatedNetwork.ofOctets = .ok networks := by
    rw [association_eq]
    rcases o.listed.mapM DelegatedNetwork.ofOctets with e | networks
    · simp [Except.map]
    · simp [Except.map]
  rw [hnetworks, mapM_ok_iff]
  constructor
  · rintro h ⟨octets, hmem, hlong⟩
    obtain ⟨network, hok⟩ := h octets hmem
    rcases DelegatedNetwork.ofOctets_cases octets with ⟨hshort, -⟩ | ⟨-, text, herror⟩
    · exact hshort hlong
    · rw [hok] at herror
      cases herror
  · intro h octets hmem
    rcases DelegatedNetwork.ofOctets_cases octets with ⟨-, hok⟩ | ⟨hlong, -⟩
    · exact hok
    · exact absurd ⟨octets, hmem, hlong⟩ h

/-- An association that cannot be told fails with the text of a network. -/
theorem association_error {e : Address.NetworkError} (h : o.association = .error e) :
    ∃ text, e = .invalid text := by
  rw [association_eq] at h
  rcases hmap : o.listed.mapM DelegatedNetwork.ofOctets with e' | networks
  · rw [hmap] at h
    cases h
    obtain ⟨octets, -, herror⟩ := mem_of_mapM_eq_error hmap
    exact DelegatedNetwork.ofOctets_error herror
  · rw [hmap] at h
    cases h

/-- A number in four octets of an option is below `256 ^ 4`. -/
theorem field_lt (octets : Octets) (start : Nat) : field octets start < 256 ^ 4 :=
  Octets.toNat_take_lt 4 _

/-- The renewal timer of an association is a number in four octets. -/
theorem renewAfter_lt {a : Association} (h : o.association = .ok a) : a.renewAfter < 256 ^ 4 := by
  rw [association_eq] at h
  rcases hmap : o.listed.mapM DelegatedNetwork.ofOctets with e | networks
  · rw [hmap] at h
    cases h
  · rw [hmap] at h
    cases h
    exact field_lt _ _

end DhcpOption

end Wire

namespace Message

variable {m : Message}

/-- An option of the message that carries a delegation lists an overlong network. -/
def IsOverlong (m : Message) : Prop :=
  ∃ o ∈ m.options.filter (·.isA delegation), o.IsOverlong

/-- **When associations can be told.** The associations of a message can be told exactly if none of
its delegations lists an overlong network. -/
theorem associations_ok_iff : (∃ as, m.associations = .ok as) ↔ ¬ m.IsOverlong := by
  rw [associations, mapM_ok_iff]
  constructor
  · rintro h ⟨o, hmem, hlong⟩
    exact Wire.DhcpOption.association_ok_iff.mp (h o hmem) hlong
  · intro h o hmem
    exact Wire.DhcpOption.association_ok_iff.mpr fun hlong => h ⟨o, hmem, hlong⟩

/-- Associations that cannot be told fail with the text of a network. -/
theorem associations_error {e : Address.NetworkError} (h : m.associations = .error e) :
    ∃ text, e = .invalid text := by
  obtain ⟨o, -, herror⟩ := mem_of_mapM_eq_error h
  exact Wire.DhcpOption.association_error herror

/-- The renewal timers of a message are numbers in four octets. -/
theorem renewAfter_lt {as : List Wire.Association} (h : m.associations = .ok as)
    {a : Wire.Association} (ha : a ∈ as) : a.renewAfter < 256 ^ 4 := by
  obtain ⟨o, -, ho⟩ := mem_of_mapM h ha
  exact Wire.DhcpOption.renewAfter_lt ho

end Message

end PrefixDelegation
