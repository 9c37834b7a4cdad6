import Mathlib.Data.Int.ModEq
import PrefixDelegation.Proofs.Identity.DuidText
import PrefixDelegation.Proofs.Identity.Resolution
import PrefixDelegation.Proofs.Session.Agreement
import PrefixDelegation.Proofs.Session.Soliciting

/-!
# A generated identity can be pinned

Servers bind what they delegate to the identifier of the client. A client that makes an identifier
from its hardware address and the time makes another one when it is started again, unless it is
given the first one as text.

That this works takes a chain of facts. What is made is an identifier, at whatever time it was made
(`Duid.isDuid_linkLayerTime`), and another one at every other time, up to the wrap-around of the clock
(`Duid.linkLayerTime_eq_iff`). Its text is read back, and a client that is given the text has this
identifier whatever the time is (`ClientConfig.resolveIdentity_eq_ok`). No call changes it
(`Session.ran_setup`), and whatever the client sends that it builds by itself is read as a message of
this client (`Session.speaksAs`). `Duid.linkLayerTime_pinned` puts the chain together.
-/

namespace PrefixDelegation

open Wire

namespace Duid

/-! ### Identifiers that are made -/

variable (address : Octets) (seconds : Int)

@[simp] theorem length_linkLayerTime :
    (linkLayerTime address seconds).length = address.length + 8 := by
  simp only [linkLayerTime, List.length_append, List.length_cons, List.length_nil,
    Octets.length_ofNat]
  omega

/-- **What is made from an address is an identifier**, at any time. -/
theorem isDuid_linkLayerTime : IsDuid (linkLayerTime address seconds) := by
  have htype : Octets.toNat ((linkLayerTime address seconds).take 2) = 1 := rfl
  have hlen := length_linkLayerTime address seconds
  exact ⟨by omega, by rw [htype]; decide, fun _ => by omega⟩

/-- The time as it counts from the start of the year 2000, in 32 bits. -/
def stamp : Nat := ((seconds - epoch) % 0x100000000).toNat

theorem stamp_lt : stamp seconds < 256 ^ 4 := by
  unfold stamp
  omega

/-- Times are stamped alike exactly if they are congruent. -/
theorem stamp_eq_iff (seconds' : Int) :
    stamp seconds' = stamp seconds ↔ seconds' ≡ seconds [ZMOD 2 ^ 32] := by
  unfold stamp Int.ModEq
  omega

/-- **Times give the same identifier exactly if they are congruent modulo 2³².** -/
theorem linkLayerTime_eq_iff (seconds' : Int) :
    linkLayerTime address seconds' = linkLayerTime address seconds
      ↔ seconds' ≡ seconds [ZMOD 2 ^ 32] := by
  rw [← stamp_eq_iff]
  constructor
  · intro h
    -- the stamp stands behind the types and in front of the address
    have hstamp : Octets.ofNat 4 (stamp seconds') = Octets.ofNat 4 (stamp seconds) :=
      List.append_cancel_left (List.append_cancel_right h)
    rw [← Octets.toNat_ofNat (stamp_lt seconds'), hstamp, Octets.toNat_ofNat (stamp_lt seconds)]
  · intro h
    exact congrArg (fun n => [0, 1, 0, 1] ++ Octets.ofNat 4 n ++ address) h

end Duid

/-! ### Identifiers that are given -/

variable {d : Octets}

/-- An identifier is taken as it is, -/
theorem Given.readDuid_octets (h : Duid.IsDuid d) : (Given.octets d).readDuid = .ok d := by
  rw [Given.readDuid, Duid.check_eq_ok_iff.mpr ⟨rfl, h⟩]
  rfl

/-- and its text is read as the identifier. -/
theorem Given.readDuid_write (h : Duid.IsDuid d) :
    (Given.text (Duid.write d)).readDuid = .ok d := by
  rw [Given.readDuid, Duid.read_eq_ok_iff.mpr ⟨Duid.denotes_write d, h⟩]
  rfl

/-- **A client that is given an identifier has it at any time**, if its hardware address can be
found. -/
theorem ClientConfig.resolveIdentity_eq_ok {c : ClientConfig} {given : Given}
    (hgiven : c.duid = some given) (hread : given.readDuid = .ok d) (m : Machine)
    (now : Calendar.Moment) (identity : Identity) :
    c.resolveIdentity m now = .ok identity ↔
      ∃ hardwareAddress, c.resolveHardwareAddress m = .ok hardwareAddress ∧
        identity = ⟨hardwareAddress, d, [clientRecord .debug ("Using configured DUID " ++ Duid.write d)]⟩ := by
  rw [resolveIdentity_eq_ok_iff]
  constructor
  · rintro ⟨address, d', record, haddress, hduid, rfl⟩
    obtain ⟨hread', rfl⟩ := (resolveDuid_of_given hgiven).mp hduid
    obtain rfl : d = d' := Except.ok.inj (hread.symm.trans hread')
    exact ⟨address, haddress, rfl⟩
  · rintro ⟨address, haddress, rfl⟩
    exact ⟨address, d, _, haddress, (resolveDuid_of_given hgiven).mpr ⟨hread, rfl⟩, rfl⟩

namespace Session

variable {τ : Type} [Recording τ]

/-! ### Messages of a client -/

/-- A datagram that is read as a message of a client. -/
def IsFrom (d datagram : Octets) : Prop :=
  ∃ r, Message.decode datagram = .ok r ∧ r.clientId? = some (some d)

/-- **A session that speaks as a client**: whatever it sends that it builds by itself is read as a
message of this client, and it sends what it is told to. -/
structure SpeaksAs (s : Session τ) (d : Octets) : Prop where
  duid_eq : s.duid = d
  solicit : ∃ datagram, s.sentBy (.solicit none) = [datagram] ∧ IsFrom d datagram
  request : ∀ a : Message, NamesServer (some a) → a.IsWritable →
    ∃ datagram, s.sentBy (.request (some a)) = [datagram] ∧ IsFrom d datagram
  requests : ∀ advertise, ∀ datagram ∈ s.sentBy (.request advertise), IsFrom d datagram
  release : NamesServer s.advertise →
    ∃ datagram, s.sentBy .release = [datagram] ∧ IsFrom d datagram
  obtain : ∀ datagram ∈ s.sentBy .obtain, IsFrom d datagram

/-- What answers an Advertise is read as a message of the client. -/
theorem isFrom_answer {type : MessageType} (htype : IsExchanged type.toNat) (xid : TransactionId)
    (hd : 1 ≤ d.length ∧ d.length < 256 ^ 2) (server : DhcpOption) (a : Message) :
    IsFrom d (Message.answer type xid d server a).octets := by
  obtain ⟨r, hr, -, -, hoptions⟩ := Message.decode_answer htype xid hd.2 server a
  exact ⟨r, hr, Message.clientId?_of_options hoptions hd⟩

variable {s : Session τ}

theorem isFrom_solicit (hd : 1 ≤ s.duid.length ∧ s.duid.length < 256 ^ 2) :
    ∃ datagram, s.sentBy (.solicit none) = [datagram] ∧ IsFrom s.duid datagram := by
  obtain ⟨r, hr, -, -, hclient, -⟩ := decode_ownSolicit hd (s.outbox.nextId .drawn)
  exact ⟨_, sentBy_solicit_none hd.2, r, hr, hclient⟩

theorem isFrom_request (hd : 1 ≤ s.duid.length ∧ s.duid.length < 256 ^ 2) {a : Message}
    (h : NamesServer (some a)) (hread : a.IsWritable) :
    ∃ datagram, s.sentBy (.request (some a)) = [datagram] ∧ IsFrom s.duid datagram := by
  obtain ⟨a, server, ha, hserver⟩ := h.exists_serverOf
  cases ha
  exact ⟨_, (sentBy_request hserver s).trans (Message.written_answer hread hserver hd.2 _ _),
    isFrom_answer (by decide) _ hd server a⟩

theorem isFrom_requests (hd : 1 ≤ s.duid.length ∧ s.duid.length < 256 ^ 2)
    (advertise : Option Message) :
    ∀ datagram ∈ s.sentBy (.request advertise), IsFrom s.duid datagram := by
  intro datagram hmem
  by_cases hnamed : NamesServer advertise
  · obtain ⟨a, server, rfl, hserver⟩ := hnamed.exists_serverOf
    rw [sentBy_request hserver] at hmem
    -- it is the answer, as far as this can be written
    obtain ⟨-, rfl⟩ := Message.encode_eq_ok_iff.mp (Message.mem_written_iff.mp hmem)
    exact isFrom_answer (by decide) _ hd server a
  · rw [sentBy_of_unaddressed (c := .request advertise) hnamed] at hmem
    cases hmem

theorem isFrom_release (hd : 1 ≤ s.duid.length ∧ s.duid.length < 256 ^ 2)
    (hread : s.KeepsWritable) (h : NamesServer s.advertise) :
    ∃ datagram, s.sentBy .release = [datagram] ∧ IsFrom s.duid datagram := by
  obtain ⟨a, server, hkept, hserver⟩ := h.exists_serverOf
  have hwritten := Message.written_answer (hread a hkept) hserver hd.2
  exact ⟨_, (sentBy_release hkept hserver).trans (hwritten _ _),
    isFrom_answer (by decide) _ hd server a⟩

/-- Obtaining sends what a Solicit sends, and then what a Request sends, if it comes to that. -/
theorem sentBy_obtain (s : Session τ) :
    s.sentBy .obtain = { s with error := none }.sentBy (.solicit none) ∨
      ∃ advertise, s.sentBy .obtain = { s with error := none }.sentBy (.solicit none)
        ++ ({ s with error := none }.after (.solicit none)).sentBy (.request advertise) := by
  simp only [sentBy_eq]
  rcases negotiates_cases { s with error := none } with hsame | ⟨advertise, hbehind⟩
  · exact .inl (congrArg (List.flatMap Message.written) hsame)
  · refine .inr ⟨advertise, ?_⟩
    rw [← List.flatMap_append, ← hbehind]
    rfl

/-- So does a session that obtains a lease. -/
theorem isFrom_obtain (hd : 1 ≤ s.duid.length ∧ s.duid.length < 256 ^ 2) :
    ∀ datagram ∈ s.sentBy .obtain, IsFrom s.duid datagram := by
  have hsolicit : ∀ datagram ∈ { s with error := none }.sentBy (.solicit none),
      IsFrom s.duid datagram := by
    intro datagram hmem
    obtain ⟨sent, hsent, hfrom⟩ := isFrom_solicit (s := { s with error := none }) hd
    rw [hsent] at hmem
    rwa [List.mem_singleton.mp hmem]
  rcases s.sentBy_obtain with hsent | ⟨advertise, hsent⟩
  · rw [hsent]
    exact hsolicit
  · -- the Request is that of the same client
    have hsame : ({ s with error := none }.after (.solicit none)).duid = s.duid :=
      congrArg Setup.duid (after_setup { s with error := none } (.solicit none))
    rw [hsent]
    intro datagram hmem
    rcases List.mem_append.mp hmem with hmem | hmem
    · exact hsolicit datagram hmem
    · rw [← hsame] at hd ⊢
      exact isFrom_requests hd advertise datagram hmem

/-- **A session speaks as the client whose identifier it has**, if its length can be declared. -/
theorem speaksAs (hduid : s.duid = d) (hread : s.KeepsWritable)
    (hd : 1 ≤ d.length ∧ d.length < 256 ^ 2) : s.SpeaksAs d := by
  subst hduid
  exact {
    duid_eq := rfl
    solicit := isFrom_solicit hd
    request := fun a => isFrom_request hd
    requests := isFrom_requests hd
    release := isFrom_release hd hread
    obtain := isFrom_obtain hd }

end Session

/-- **A generated identity can be pinned.** Let an identifier be made from any hardware address that
leaves room for it in a message, and from any time. It is accepted as it is, and so is its text. A
client that is given the text has this identifier, at any time and on any machine, whenever its
hardware address can be found at all; and over any run, whatever is called and whatever the transport
does, it keeps it and speaks as this client: each Solicit that it builds, each Request and each Release
that it sends is read as a message of the client with this identifier. The same address gives the same
identifier at another time exactly if the two are congruent modulo 2³². -/
theorem Duid.linkLayerTime_pinned {address : Octets} (hlen : address.length ≤ 65527)
    (seconds : Int) :
    (Given.octets (linkLayerTime address seconds)).readDuid = .ok (linkLayerTime address seconds) ∧
    (Given.text (write (linkLayerTime address seconds))).readDuid
      = .ok (linkLayerTime address seconds) ∧
    (∀ (c : ClientConfig) (m : Machine) (now : Calendar.Moment),
      c.duid = some (.text (write (linkLayerTime address seconds))) →
      ((∃ identity, c.resolveIdentity m now = .ok identity) ↔
        ∃ hardwareAddress, c.resolveHardwareAddress m = .ok hardwareAddress) ∧
      ∀ identity, c.resolveIdentity m now = .ok identity →
        identity.duid = linkLayerTime address seconds ∧
        ∀ (τ : Type) [Recording τ] (random : RandomIds) (transport : τ) (s₀ s : Session τ)
          (attempts : List Attempt), Session.start c identity random transport = .ok s₀ →
          s₀.Ran s attempts → s.SpeaksAs (linkLayerTime address seconds)) ∧
    ∀ seconds', linkLayerTime address seconds' = linkLayerTime address seconds
      ↔ seconds' ≡ seconds [ZMOD 2 ^ 32] := by
  have hduid := isDuid_linkLayerTime address seconds
  have hroom : 1 ≤ (linkLayerTime address seconds).length ∧
      (linkLayerTime address seconds).length < 256 ^ 2 := by
    rw [length_linkLayerTime]
    omega
  have hread := Given.readDuid_write hduid
  refine ⟨Given.readDuid_octets hduid, hread, fun c m now hgiven => ⟨?_, ?_⟩,
    linkLayerTime_eq_iff address seconds⟩
  · simp only [ClientConfig.resolveIdentity_eq_ok hgiven hread]
    exact ⟨fun ⟨_, hw, h, _⟩ => ⟨hw, h⟩, fun ⟨hw, h⟩ => ⟨_, hw, h, rfl⟩⟩
  · intro identity hidentity
    obtain ⟨hw, -, rfl⟩ := (ClientConfig.resolveIdentity_eq_ok hgiven hread m now identity).mp hidentity
    refine ⟨rfl, fun τ _ random transport s₀ s attempts h₀ h => ?_⟩
    obtain ⟨_, -, rfl⟩ := Session.start_eq h₀
    exact Session.speaksAs (congrArg Session.Setup.duid (Session.ran_setup h))
      (Session.ran_keepsWritable rfl h) hroom

/-- A client that is given an identifier from before the year 2000. -/
def pinnedConfig : ClientConfig :=
  { duid := some (.text "00:01:00:01:c7:92:bc:80:02:00:00:00:00:01") }

/-- The identifier was made at the epoch of clocks. The client has it again on another machine, its
Solicit names it, and it would have been the same one wrap-around of the clock later. -/
theorem Duid.linkLayerTime_pinned_of_epoch :
    ∃ (identity : Identity) (s : Session Script) (datagram : Octets) (r : Message),
      pinnedConfig.resolveIdentity ⟨[], none⟩ Calendar.Moment.origin = .ok identity ∧
      Session.start pinnedConfig identity [] (Script.playing []) = .ok s ∧
      s.sentBy (.solicit none) = [datagram] ∧ Message.decode datagram = .ok r ∧
      r.clientId? = some (some (linkLayerTime [2, 0, 0, 0, 0, 1] 0)) ∧
      linkLayerTime [2, 0, 0, 0, 0, 1] 4294967296 = linkLayerTime [2, 0, 0, 0, 0, 1] 0 := by
  have hlen : ([2, 0, 0, 0, 0, 1] : Octets).length ≤ 65527 := by decide
  obtain ⟨-, -, hclient, hwraps⟩ := linkLayerTime_pinned hlen 0
  have hgiven : pinnedConfig.duid = some (.text (write (linkLayerTime [2, 0, 0, 0, 0, 1] 0))) := by
    decide +kernel
  obtain ⟨hresolves, hspeaks⟩ := hclient pinnedConfig ⟨[], none⟩ Calendar.Moment.origin hgiven
  obtain ⟨identity, hidentity⟩ := hresolves.mpr ⟨none, rfl⟩
  obtain ⟨-, hspeaks⟩ := hspeaks identity hidentity
  obtain ⟨datagram, hsent, r, hr, hfrom⟩ :=
    (hspeaks Script [] (Script.playing []) _ _ [] rfl .start).solicit
  exact ⟨identity, _, datagram, r, hidentity, rfl, hsent, hr, hfrom, (hwraps _).mpr (by decide)⟩

end PrefixDelegation
