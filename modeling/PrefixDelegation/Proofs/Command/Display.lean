import PrefixDelegation.Proofs.Command.Acts
import PrefixDelegation.Proofs.Console.PlainText
import PrefixDelegation.Proofs.Lease.RoundTrip
import PrefixDelegation.Proofs.Session.Moves

/-!
# Showing a lease

A lease is shown as a table, and showing can fail: a name server can be a value that is no text, and
any text can have something wrong with its markup. A lease that a Reply grants has neither
(`Lease.IsShowable`). Its networks, its name servers and its moment are written with digits and a few
signs, and a bracket is not among them. So a session that has obtained a lease can always show it
(`display_ok`), and knows how long to wait for the next (`renewDelay_eq`).
-/

namespace PrefixDelegation

open Text Address Calendar

/-! ### Texts without brackets -/

theorem Address.Network.bracket_notMem_write {n : Network} (h : n.family = .ipv6) :
    '[' ∉ n.write.toList := by
  obtain ⟨family, address, length, address_lt, length_le⟩ := n
  cases h
  intro hmem
  rw [Network.write, String.toList_ofList] at hmem
  unfold Network.writeChars at hmem
  rcases List.mem_append.mp hmem with haddress | hlength
  · exact notMem_writeIpv6Chars rfl (by decide) (by decide) address haddress
  · rcases List.mem_cons.mp hlength with hslash | hlength
    · cases hslash
    · exact notMem_numeral (by decide) (by decide) rfl hlength

theorem Address.bracket_notMem_ipv6Text (octets : Octets) : '[' ∉ (ipv6Text octets).toList := by
  rw [ipv6Text, writeIpv6, String.toList_ofList]
  exact notMem_writeIpv6Chars rfl (by decide) (by decide) _

theorem Calendar.Moment.bracket_notMem_write {m : Moment} (h : m.offset = some Offset.zero) :
    '[' ∉ m.write.toList := by
  have hfield : ∀ {width n}, '[' ∉ fixed 10 width n := notMem_fixed (by decide) (by decide) rfl
  have htime : ∀ micros, '[' ∉ writeTime micros := by
    intro micros hmem
    rcases mem_writeTime hmem with ⟨d, hd, hc⟩ | hc | hc
    · exact digitChar_ne hd rfl hc.symm
    · cases hc
    · cases hc
  have hoffset : '[' ∉ writeOffset Offset.zero := by decide
  rw [Moment.write, String.toList_ofList]
  unfold Moment.writeChars writeDate
  rw [h]
  simp [hfield, htime, hoffset]

namespace Lease

/-- A lease that can be shown. -/
structure IsShowable (l : Lease) : Prop extends l.IsStorable where
  nameServers_plain : ∀ text, .text text ∈ l.nameServers → '[' ∉ text.toList

/-- **Every lease that a Reply grants can be shown**, if the clock shows universal time. -/
theorem isShowable_of_ofReply {l : Lease} {reply : Message} {now : Moment}
    (hnow : now.offset = some Offset.zero) (h : ofReply reply now = .ok l) : l.IsShowable := by
  obtain ⟨as, -, -, -, hservers⟩ := ofReply_eq_ok h
  refine ⟨isStorable_of_ofReply hnow h, fun text htext => ?_⟩
  -- a name server is the text of an address
  rw [hservers] at htext
  obtain ⟨server, hserver, heq⟩ := List.mem_map.mp htext
  obtain ⟨o, -, hmem⟩ := List.mem_flatMap.mp hserver
  obtain ⟨octets, -, rfl⟩ := List.mem_map.mp hmem
  rw [← Json.text.inj heq]
  exact bracket_notMem_ipv6Text octets

/-- **Every lease that a session obtains can be shown**, if its clock shows universal time. -/
theorem isShowable_of_obtain {s s' : Session Host}
    (hclock : s.transport.now.offset = some Offset.zero) (h : s.obtain = (.ok (), s'))
    (herror : s'.error = none) : s'.lease.IsShowable := by
  obtain ⟨reply, -, hlease⟩ := Session.obtain_granted h herror
  exact isShowable_of_ofReply ((Session.grows_of_obtain h).offset_eq.trans hclock) hlease

/-! ### Waiting for the next -/

section Waiting

variable {l : Lease} {now : Moment} (h : l.renewAfter.offset = some Offset.zero)
include h

/-- The time from one moment of universal time to another. -/
theorem since?_of_universal (hnow : now.offset = some Offset.zero) :
    l.renewAfter.since? now = some ((l.renewAfter.reading : Int) - now.reading) := by
  unfold Moment.since?
  rw [h, hnow]
  simp [Moment.instant, Offset.zero]

/-- A lease that grants nothing has been due since the start of the calendar. -/
theorem reading_of_not_isHeld (hheld : l.isHeld = false) : l.renewAfter.reading = 0 := by
  unfold isHeld Moment.same at hheld
  rw [h] at hheld
  simp [Moment.instant, Moment.origin, Offset.zero] at hheld
  exact hheld

/-- **How long to wait** for the renewal: until it is due, or for as long as given if it is due
already. -/
theorem renewDelay_eq (hnow : now.offset = some Offset.zero) (fallback : Seconds) :
    ∃ micros, l.renewAfter.since? now = some micros ∧ l.renewDelay fallback now =
      .ok (if micros ≤ 0 then fallback else .real (microsToSeconds micros)) := by
  refine ⟨_, since?_of_universal h hnow, ?_⟩
  unfold renewDelay
  rw [since?_of_universal h hnow]
  by_cases hheld : l.isHeld
  · rw [hheld]
    rfl
  · -- the moment of a lease that grants nothing is past, so both branches come to the same
    have hstart := reading_of_not_isHeld h (Bool.eq_false_iff.mpr hheld)
    have hdue : (l.renewAfter.reading : Int) - now.reading ≤ 0 := by omega
    rw [Bool.eq_false_iff.mpr hheld, if_pos hdue]
    rfl

end Waiting

end Lease

/-! ### Tables -/

namespace Command

/-- The values of rows that belong together. -/
theorem mem_rowsOf {label : String} {values : List String} {r : Console.Row}
    (h : r ∈ rowsOf label values) : r.value = "N/A" ∨ r.value ∈ values := by
  cases values with
  | nil =>
    rw [List.mem_singleton.mp h]
    exact .inl rfl
  | cons first rest =>
    right
    rcases List.mem_cons.mp h with rfl | h
    · exact List.mem_cons_self
    · obtain ⟨value, hvalue, rfl⟩ := List.mem_map.mp h
      exact List.mem_cons_of_mem first hvalue

/-- A lease that can be shown has a table, in which no text has a bracket. -/
theorem tableOf_ok {l : Lease} (h : l.IsShowable) :
    ∃ table, tableOf l = .ok table ∧ ∀ r ∈ table.rows, '[' ∉ r.value.toList := by
  have hcell : ∀ s ∈ l.nameServers, ∃ text, cellOf s = .ok text := by
    intro s hs
    obtain ⟨text, rfl⟩ := h.nameServers_text s hs
    exact ⟨text, rfl⟩
  obtain ⟨cells, hcells⟩ := mapM_ok_iff.mpr hcell
  unfold tableOf
  rw [hcells]
  refine ⟨_, rfl, fun r hr => ?_⟩
  rcases List.mem_append.mp hr with hr | hr
  rcases List.mem_append.mp hr with hr | hr
  · rcases mem_rowsOf hr with hvalue | hvalue
    · rw [hvalue]
      decide
    · obtain ⟨n, hn, hwrite⟩ := List.mem_map.mp hvalue
      rw [← hwrite]
      exact Network.bracket_notMem_write (h.networks_ipv6 n hn)
  · rcases mem_rowsOf hr with hvalue | hvalue
    · rw [hvalue]
      decide
    · obtain ⟨s, hs, hshown⟩ := mem_of_mapM hcells hvalue
      obtain ⟨text, rfl⟩ := h.nameServers_text s hs
      rw [← Except.ok.inj hshown]
      exact h.nameServers_plain text hs
  · rw [List.mem_singleton.mp hr]
    by_cases hheld : l.isHeld
    · rw [if_pos hheld]
      exact Moment.bracket_notMem_write h.universal
    · rw [if_neg hheld]
      decide

variable {σ : Type}

/-- **A lease that can be shown is shown**, and nothing else changes. -/
theorem display_ok {l : Lease} (h : l.IsShowable) (w : Work σ) : ∃ text, (display l).run w =
    (.ok (), { w with shell := { w.shell with output := w.shell.output ++ [text] } }) := by
  obtain ⟨table, htable, hplain⟩ := tableOf_ok h
  obtain ⟨text, htext⟩ := Console.Table.render_ok hplain consoleWidth
  refine ⟨text, ?_⟩
  unfold display
  rw [Act.run_bind, htable, run_orCrash]
  simp only [Except.mapError]
  rw [Act.run_bind, htext, run_orCrash]
  rfl

end Command

end PrefixDelegation
