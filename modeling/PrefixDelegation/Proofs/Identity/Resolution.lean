import PrefixDelegation.Client.Config
import PrefixDelegation.Proofs.Traversal

/-!
# Where an identity comes from

A client settles its hardware address first and its identifier then
(`ClientConfig.resolveIdentity_eq_ok_iff`). Each of the two is read if it is given, and the empty text
is neither. A hardware address that is not given is that of the interface, and an identifier that is
not given is made from the hardware address.
-/

namespace PrefixDelegation

open Text (nonempty?)

/-- The empty text is no identifier, -/
theorem Given.ne_empty_of_readDuid {text : String} {d : Octets}
    (h : (Given.text text).readDuid = .ok d) : text ≠ "" := by
  rintro rfl
  cases h

/-- and it is no hardware address. -/
theorem Given.ne_empty_of_readHardwareAddress {text : String} {address : Octets}
    (h : (Given.text text).readHardwareAddress = .ok address) : text ≠ "" := by
  rintro rfl
  cases h

namespace ClientConfig

variable {c : ClientConfig} {m : Machine} {now : Calendar.Moment} {address : Option Octets}
  {a d : Octets} {record : Record} {given : Given}

/-- **An identity** consists of a hardware address, if there is one, and of an identifier. -/
theorem resolveIdentity_eq_ok_iff {identity : Identity} : c.resolveIdentity m now = .ok identity ↔
    ∃ address d record, c.resolveHardwareAddress m = .ok address ∧
      c.resolveDuid address now = .ok (d, record) ∧ identity = ⟨address, d, [record]⟩ := by
  unfold resolveIdentity
  simp only [bind_eq_ok_iff, mapError_eq_ok_iff, Prod.exists]
  constructor
  · rintro ⟨address, haddress, d, record, hduid, h⟩
    exact ⟨address, d, record, haddress, hduid, (Except.ok.inj h).symm⟩
  · rintro ⟨address, d, record, haddress, hduid, rfl⟩
    exact ⟨address, haddress, d, record, hduid, rfl⟩

/-- An identifier that is given is read, -/
theorem resolveDuid_of_given (hgiven : c.duid = some given) :
    c.resolveDuid address now = .ok (d, record) ↔ given.readDuid = .ok d ∧
      record = clientRecord .debug ("Using configured DUID " ++ Duid.write d) := by
  unfold resolveDuid
  rw [hgiven]
  simp only [bind_eq_ok_iff, mapError_eq_ok_iff]
  constructor
  · rintro ⟨d', hread, h⟩
    cases h
    exact ⟨hread, rfl⟩
  · rintro ⟨hread, rfl⟩
    exact ⟨d, hread, rfl⟩

/-- and if none is given, one is made from the hardware address. -/
theorem resolveDuid_of_none (hnone : c.duid = none)
    (h : c.resolveDuid address now = .ok (d, record)) :
    ∃ a, address = some a ∧ d = Duid.linkLayerTime a (epochSeconds now) := by
  unfold resolveDuid at h
  rw [hnone] at h
  cases address with
  | none => cases h
  | some a => exact ⟨a, rfl, (congrArg Prod.fst (Except.ok.inj h)).symm⟩

/-- A hardware address that is given is read, -/
theorem resolveHardwareAddress_of_given (hgiven : c.hardwareAddress = some given) :
    c.resolveHardwareAddress m = .ok (some a) ↔ given.readHardwareAddress = .ok a := by
  unfold resolveHardwareAddress
  rw [hgiven]
  simp only [map_eq_ok_iff, mapError_eq_ok_iff, Option.some.injEq, exists_eq_right]

/-- and if none is given, it is that of the interface. -/
theorem resolveHardwareAddress_of_none (hnone : c.hardwareAddress = none) :
    c.resolveHardwareAddress m = .ok (some a) ↔
      ∃ name, nonempty? c.interface = some name ∧ m.hardwareAddress name = .ok a := by
  unfold resolveHardwareAddress
  rw [hnone]
  cases nonempty? c.interface with
  | none => simp only [reduceCtorEq, false_and, exists_false, Except.ok.injEq]
  | some name =>
    simp only [map_eq_ok_iff, Option.some.injEq, exists_eq_right, exists_eq_left']

end ClientConfig

end PrefixDelegation
