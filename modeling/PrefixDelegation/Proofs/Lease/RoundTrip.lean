import PrefixDelegation.Proofs.Address.NetworkText
import PrefixDelegation.Proofs.Calendar.MomentText
import PrefixDelegation.Proofs.Files.Replaced
import PrefixDelegation.Proofs.Json.Layout
import PrefixDelegation.Proofs.Lease.Granted

/-!
# Leases are read back

A lease survives being kept: its document describes the lease itself (`Lease.ofJson_toJson`), so does
the content of its file (`Lease.ofFileContent_fileContent`), and so does the file once the lease was
put in its place (`Lease.load_save`). Nothing is said of leases here beyond what makes a lease
*storable* (`Lease.IsStorable`): its moment is one of universal time, its networks are of IPv6, and
its name servers are texts. Every lease that a Reply grants by a clock of universal time is storable
(`Lease.isStorable_of_ofReply`).

The start of the calendar has a text like any other moment. So a lease that grants nothing comes back
as one that grants nothing.
-/

namespace PrefixDelegation

open Address Calendar

namespace Lease

/-- A lease that can be kept in a file. -/
structure IsStorable (l : Lease) : Prop where
  universal : l.renewAfter.offset = some Offset.zero
  networks_ipv6 : ∀ n ∈ l.networks, n.family = .ipv6
  nameServers_text : ∀ s ∈ l.nameServers, ∃ text, s = .text text

variable {l : Lease}

/-! ### Documents -/

/-- The text of a moment is not empty. -/
theorem isEmpty_write (m : Moment) : m.write.isEmpty = false := by
  have hne : m.write.toList ≠ [] := by
    unfold Moment.write Moment.writeChars
    simp
  rw [Bool.eq_false_iff]
  intro hempty
  rw [String.isEmpty_iff] at hempty
  exact hne (by rw [hempty]; rfl)

/-- The moment of a document is read back. -/
theorem momentOf_write {m : Moment} (h : m.offset = some Offset.zero) :
    momentOf (.text m.write) = .ok m := by
  have hblank : (Json.text m.write).isBlank = false := isEmpty_write m
  unfold momentOf
  -- the text has an offset of its own, so none is assumed
  rw [hblank, if_neg Bool.false_ne_true]
  dsimp only
  rw [Moment.read_write h]
  simp only [Except.mapError, Except.map]
  unfold Moment.assumeUniversal
  rw [h]

/-- The networks of a document are read back. -/
theorem mapM_networkOf {networks : List Network} (h : ∀ n ∈ networks, n.family = .ipv6) :
    (networks.map fun n => Json.text n.write).mapM networkOf = .ok networks := by
  rw [mapM_eq_ok_iff, List.forall₂_map_left_iff, List.forall₂_same]
  intro n hn
  unfold networkOf
  dsimp only
  rw [Network.read_write (h n hn)]
  rfl

/-- **A document describes the lease that it was written for.** -/
theorem ofJson_toJson (h : l.IsStorable) : ofJson l.toJson = .ok l := by
  have hmoment : Json.memberOrNull [("valid_until", .text l.renewAfter.write),
      ("prefixes", .list (l.networks.map fun n => .text n.write)), ("dns", .list l.nameServers)]
      "valid_until" = .text l.renewAfter.write := rfl
  have hnetworks : Json.memberOrNull [("valid_until", .text l.renewAfter.write),
      ("prefixes", .list (l.networks.map fun n => .text n.write)), ("dns", .list l.nameServers)]
      "prefixes" = .list (l.networks.map fun n => .text n.write) := rfl
  have hservers : Json.memberOrNull [("valid_until", .text l.renewAfter.write),
      ("prefixes", .list (l.networks.map fun n => .text n.write)), ("dns", .list l.nameServers)]
      "dns" = .list l.nameServers := rfl
  unfold toJson ofJson
  dsimp only
  rw [hmoment, hnetworks, hservers, momentOf_write h.universal]
  simp only [partsOf, bind, Except.bind, mapM_networkOf h.networks_ipv6]
  rfl

/-- The document of a lease is plain. -/
theorem isPlain_toJson (h : l.IsStorable) : Json.IsPlain 2 l.toJson := by
  have hnames : ["valid_until", "prefixes", "dns"].Nodup := by decide
  refine .object hnames fun m hm => ?_
  simp only [List.mem_cons, List.not_mem_nil, or_false] at hm
  rcases hm with rfl | rfl | rfl
  · exact .text _
  · refine .list fun item hitem => ?_
    obtain ⟨n, -, rfl⟩ := List.mem_map.mp hitem
    exact .text _
  · refine .list fun item hitem => ?_
    obtain ⟨text, rfl⟩ := h.nameServers_text item hitem
    exact .text _

/-! ### Files -/

/-- **The content of a file describes the lease that it was written for.** -/
theorem ofFileContent_fileContent (h : l.IsStorable) (nesting : Json.Nesting) :
    ofFileContent nesting l.fileContent = .ok l := by
  have hplain : Json.IsPlain nesting.levels l.toJson :=
    (isPlain_toJson h).mono (Nat.le_of_succ_le nesting.three_le)
  unfold ofFileContent fileContent
  rw [Json.read_indented hplain]
  simp only [Except.mapError, bind, Except.bind, ofJson_toJson h]

/-- **A lease that was put in the place of a file is loaded from there.** -/
theorem load_save (h : l.IsStorable) {f g : Files} {p : Path} (hsave : l.save f p = (.ok (), g))
    (nesting : Json.Nesting) : load nesting g p = .ok l := by
  have hread : g.read p = .ok l.fileContent := by
    rw [Files.read_replace hsave, fileContent, Json.unifyNewlines_indented (isPlain_toJson h),
      String.ofList_toList]
  unfold load
  rw [hread]
  simp only [bind, Except.bind, ofFileContent_fileContent h nesting]

/-! ### Leases that were granted -/

/-- The earliest moment is on the clock of those that were compared. -/
theorem earliest_offset {now found due : Moment} {a : Wire.Association}
    (hnow : now.offset = some Offset.zero) (hfound : found.offset = some Offset.zero)
    (h : earliest now found a = .ok due) : due.offset = some Offset.zero := by
  rw [earliest_eq] at h
  dsimp only at h
  rcases hlater : now.later? a.renewAfter with _ | later
  · rw [hlater] at h
    cases h
  · rw [hlater] at h
    obtain rfl := Except.ok.inj h
    split
    · exact (Moment.shift?_offset hlater).trans hnow
    · exact hfound

theorem foldlM_earliest_offset {now : Moment} (hnow : now.offset = some Offset.zero)
    {as : List Wire.Association} {found due : Moment} (hfound : found.offset = some Offset.zero)
    (h : as.foldlM (earliest now) found = .ok due) : due.offset = some Offset.zero := by
  induction as generalizing found with
  | nil =>
    cases h
    exact hfound
  | cons a as ih =>
    rw [List.foldlM_cons, bind_eq_ok_iff] at h
    obtain ⟨next, hstep, hrest⟩ := h
    exact ih (earliest_offset hnow hfound hstep) hrest

/-- A delegated network is one of IPv6. -/
theorem ofOctets_family {octets : Octets} {n : Wire.DelegatedNetwork}
    (h : Wire.DelegatedNetwork.ofOctets octets = .ok n) : n.network.family = .ipv6 := by
  unfold Wire.DelegatedNetwork.ofOctets at h
  dsimp only at h
  split at h
  · next network hmake =>
    unfold Network.make? at hmake
    split at hmake
    · cases hmake
      cases h
      rfl
    · cases hmake
  · cases h

theorem associations_family {reply : Message} {as : List Wire.Association}
    (h : reply.associations = .ok as) {a : Wire.Association} (ha : a ∈ as)
    {n : Wire.DelegatedNetwork} (hn : n ∈ a.networks) : n.network.family = .ipv6 := by
  obtain ⟨o, -, ho⟩ := mem_of_mapM h ha
  rw [Wire.DhcpOption.association_eq] at ho
  rcases hmap : o.listed.mapM Wire.DelegatedNetwork.ofOctets with e | networks
  · rw [hmap] at ho
    cases ho
  · rw [hmap] at ho
    cases ho
    obtain ⟨octets, -, hoctets⟩ := mem_of_mapM hmap hn
    exact ofOctets_family hoctets

/-- **Every lease that a Reply grants can be kept**, if the clock shows universal time. -/
theorem isStorable_of_ofReply {reply : Message} {now : Moment}
    (hnow : now.offset = some Offset.zero) (h : ofReply reply now = .ok l) : l.IsStorable := by
  obtain ⟨as, has, hrenew, hnetworks, hservers⟩ := ofReply_eq_ok h
  refine ⟨foldlM_earliest_offset hnow rfl hrenew, fun n hn => ?_, fun s hs => ?_⟩
  · rw [hnetworks] at hn
    obtain ⟨a, ha, hmem⟩ := List.mem_flatMap.mp hn
    obtain ⟨delegated, hdelegated, rfl⟩ := List.mem_map.mp hmem
    exact associations_family has ha hdelegated
  · rw [hservers] at hs
    obtain ⟨text, -, rfl⟩ := List.mem_map.mp hs
    exact ⟨text, rfl⟩

end Lease

end PrefixDelegation
