import PrefixDelegation.Lease
import PrefixDelegation.Proofs.Wire.Delegation

/-!
# The lease that a Reply grants

A Reply grants a lease unless it is overlong, as long as the calendar goes on for `256 ^ 4` seconds:
no renewal timer reaches further (`Lease.ofReply_cases`). Without that proviso a Reply can also be
refused because a timer runs out beyond the calendar, and there is no third reason
(`Lease.ofReply_error`).
-/

namespace PrefixDelegation

open Calendar

/-- What comes before a moment of the calendar is in the calendar. -/
theorem Calendar.Moment.later?_isSome_of_le {now : Moment} {seconds seconds' : Nat}
    (h : (now.later? seconds').isSome) (hle : seconds ≤ seconds') :
    (now.later? seconds).isSome := by
  -- fewer seconds move the clock less far
  have hmicros : seconds * microsPerSecond ≤ seconds' * microsPerSecond :=
    Nat.mul_le_mul_right microsPerSecond hle
  unfold Moment.later? Moment.shift? at h ⊢
  simp only at h ⊢
  split at h
  · next hbounds =>
    rw [dif_pos (by omega)]
    rfl
  · cases h

/-- A clock that was moved keeps its offset. -/
theorem Calendar.Moment.shift?_offset {m m' : Moment} {micros : Int} (h : m.shift? micros = some m') :
    m'.offset = m.offset := by
  unfold Moment.shift? at h
  dsimp only at h
  split at h
  · cases h
    rfl
  · cases h

namespace Lease

variable {now : Moment}

/-- What `earliest` is, as a function. Unfolded at its arguments, it would have the kernel compute
with the end of the calendar. -/
theorem earliest_eq : earliest = fun now found a =>
    match now.later? a.renewAfter with
    | none => .error .beyondCalendar
    | some due => .ok (if found.same Moment.origin || due.before found then due else found) :=
  rfl

/-- An association whose renewal falls into the calendar can be compared with what was found. -/
theorem earliest_ok {a : Wire.Association} (h : (now.later? a.renewAfter).isSome) (found : Moment) :
    ∃ due, earliest now found a = .ok due := by
  obtain ⟨due, hdue⟩ := Option.isSome_iff_exists.mp h
  rw [earliest_eq]
  simp only [hdue]
  exact ⟨_, rfl⟩

/-- A Reply grants a lease if its associations can be told and are due within the calendar. -/
theorem ofReply_of_due {reply : Message} {as : List Wire.Association}
    (has : reply.associations = .ok as) (hdue : ∀ a ∈ as, (now.later? a.renewAfter).isSome) :
    ∃ lease, ofReply reply now = .ok lease := by
  have hstep : ∀ a ∈ as, ∀ found, ∃ due, earliest now found a = .ok due :=
    fun a ha => earliest_ok (hdue a ha)
  obtain ⟨renewAfter, hrenew⟩ := foldlM_ok hstep Moment.origin
  rw [ofReply, has]
  change ∃ lease, (as.foldlM (earliest now) Moment.origin >>= _) = .ok lease
  rw [hrenew]
  exact ⟨_, rfl⟩

/-- **When a Reply grants a lease.** If the calendar goes on for long enough, a Reply grants a lease
unless it is overlong, and then the text of an overlong network is reported. -/
theorem ofReply_cases (reply : Message) (hnow : (now.later? (256 ^ 4)).isSome) :
    (¬ reply.IsOverlong ∧ ∃ lease, ofReply reply now = .ok lease) ∨
      (reply.IsOverlong ∧ ∃ text, ofReply reply now = .error (.network (.invalid text))) := by
  rcases has : reply.associations with e | as
  · -- the associations cannot be told
    right
    have hlong : reply.IsOverlong := by
      by_contra hshort
      obtain ⟨as, has'⟩ := Message.associations_ok_iff.mpr hshort
      rw [has] at has'
      cases has'
    obtain ⟨text, rfl⟩ := Message.associations_error has
    refine ⟨hlong, text, ?_⟩
    rw [ofReply, has]
    rfl
  · -- every association has its renewal in the calendar
    left
    have hdue : ∀ a ∈ as, (now.later? a.renewAfter).isSome := by
      intro a ha
      have hlt := Message.renewAfter_lt has ha
      exact Moment.later?_isSome_of_le hnow (Nat.le_of_lt hlt)
    exact ⟨Message.associations_ok_iff.mp ⟨as, has⟩, ofReply_of_due has hdue⟩

/-- What a lease that a Reply grants is made of. -/
theorem ofReply_eq_ok {reply : Message} {l : Lease} (h : ofReply reply now = .ok l) :
    ∃ as, reply.associations = .ok as ∧
      as.foldlM (earliest now) Moment.origin = .ok l.renewAfter ∧
      l.networks = as.flatMap (fun a => a.networks.map (·.network)) ∧
      l.nameServers = reply.nameServers.map .text := by
  rcases has : reply.associations with e | as
  · rw [ofReply, has] at h
    cases h
  · rw [ofReply, has] at h
    change (as.foldlM (earliest now) Moment.origin >>= _) = _ at h
    obtain ⟨renewAfter, hrenew, hlease⟩ := bind_eq_ok_iff.mp h
    cases hlease
    exact ⟨as, rfl, hrenew, rfl, rfl⟩

/-- **Why a Reply grants no lease**: a network cannot be told, or a renewal is due beyond the
calendar. -/
theorem ofReply_error {reply : Message} {fault : Fault} (h : ofReply reply now = .error fault) :
    (∃ e, fault = .network e) ∨ fault = .beyondCalendar := by
  rcases has : reply.associations with e | as
  · -- a network cannot be told
    rw [ofReply, has] at h
    cases h
    exact .inl ⟨e, rfl⟩
  · right
    rw [ofReply, has] at h
    change (as.foldlM (earliest now) Moment.origin >>= _) = _ at h
    rcases hrenew : as.foldlM (earliest now) Moment.origin with fault' | renewAfter
    · -- some association is due beyond the calendar, since that is all that a step fails with
      rw [hrenew] at h
      cases h
      obtain ⟨a, -, found, hstep⟩ := mem_of_foldlM_eq_error hrenew
      rw [earliest_eq] at hstep
      rcases hdue : now.later? a.renewAfter with _ | due
      · simp only [hdue] at hstep
        exact (Except.error.inj hstep).symm
      · simp only [hdue] at hstep
        cases hstep
    · rw [hrenew] at h
      cases h

end Lease

end PrefixDelegation
