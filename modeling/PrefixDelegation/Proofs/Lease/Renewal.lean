import PrefixDelegation.Proofs.Lease.Granted
import PrefixDelegation.Proofs.Wire.ServerData

/-!
# When a lease has to be renewed

A lease has to be renewed when the first of its associations is due, and an association is due when
its renewal timer, counted from the arrival of the Reply, runs out. The search for that moment goes
through the associations once and keeps the earlier of two moments, and it begins with the start of
the calendar, which stands for "nothing was found yet". So the search is right only if no
association is due at the start of the calendar. None is if the Reply arrives later than that, since
a timer does not run backwards; a timer of no seconds makes the association due at the arrival
itself.

`Lease.IsEarliest` says what is looked for. The invariant of the search is that what was found is
the earliest due moment of the associations seen so far: the first association brings it about, each
further one keeps it (`Lease.IsEarliest.step`), and so does the rest of the list
(`Lease.IsEarliest.foldlM`). There is only one such moment (`Lease.IsEarliest.unique`), so the order
of the associations makes no difference.

`Lease.ofReply_earliest` adds what a lease takes over as it is: networks and name servers, in order.
-/

namespace PrefixDelegation

open Calendar

/-! ### Moments on one clock -/

namespace Calendar.Moment

/-- The first moment is not after the second. Only moments that can be compared are so ordered. -/
def NotAfter (a b : Moment) : Prop := ∃ gap, b.since? a = some gap ∧ 0 ≤ gap

/-- A clock shows that many seconds more, and keeps its offset. -/
theorem reading_of_later? {m m' : Moment} {seconds : Nat} (h : m.later? seconds = some m') :
    m'.reading = m.reading + seconds * microsPerSecond ∧ m'.offset = m.offset := by
  refine ⟨?_, shift?_offset h⟩
  unfold later? shift? at h
  dsimp only at h
  split at h
  · have hreading : (m.reading + (seconds * microsPerSecond : Nat) : Int).toNat = m'.reading :=
      congrArg reading (Option.some.inj h)
    omega
  · cases h

section OneClock

variable {a b : Moment} (h : a.offset = b.offset)
include h

/-- Moments on one clock are as far apart as the clock shows. -/
theorem since?_of_offset_eq : a.since? b = some ((a.reading : Int) - b.reading) := by
  unfold since?
  rw [h]
  cases b.offset with
  | none => rfl
  | some o =>
    simp only [instant, Option.some.injEq]
    omega

/-- Of two moments on one clock the one that is shown first is before the other. -/
theorem before_iff_of_offset_eq : a.before b = true ↔ a.reading < b.reading := by
  unfold before
  rw [since?_of_offset_eq h]
  simp only [decide_eq_true_eq]
  omega

theorem notAfter_iff_of_offset_eq : a.NotAfter b ↔ a.reading ≤ b.reading := by
  unfold NotAfter
  rw [since?_of_offset_eq h.symm]
  simp only [Option.some.injEq, exists_eq_left']
  omega

/-- A clock shows every moment once. -/
theorem eq_of_notAfter_of_notAfter (hab : a.NotAfter b) (hba : b.NotAfter a) : a = b := by
  rw [notAfter_iff_of_offset_eq h] at hab
  rw [notAfter_iff_of_offset_eq h.symm] at hba
  cases a
  cases b
  simp only [mk.injEq] at *
  exact ⟨Nat.le_antisymm hab hba, h⟩

end OneClock

/-- What is behind the start of the calendar stays behind it. -/
theorem same_origin_of_later? {now due : Moment} {seconds : Nat} (hnow : origin.before now = true)
    (h : now.later? seconds = some due) : due.same origin = false := by
  obtain ⟨hreading, hoffset⟩ := reading_of_later? h
  unfold before since? at hnow
  unfold same
  rw [hoffset]
  cases hclock : now.offset with
  | none => rfl
  | some o =>
    -- the instant of now is positive, and the timer adds to it
    rw [hclock] at hnow
    simp only [origin, instant, Offset.zero, decide_eq_true_eq] at hnow
    simp only [origin, instant, Offset.zero, hreading, beq_eq_false_iff_ne]
    omega

end Calendar.Moment

/-! ### The earliest due moment -/

namespace Lease

variable {now found next due : Moment} {a : Wire.Association} {as seen : List Wire.Association}

/-- The earliest moment at which one of some associations is due, counted from now. -/
structure IsEarliest (now : Moment) (as : List Wire.Association) (due : Moment) : Prop where
  is_due : ∃ a ∈ as, now.later? a.renewAfter = some due
  notAfter : ∀ a ∈ as, ∀ due', now.later? a.renewAfter = some due' → due.NotAfter due'

/-- What is due is shown on the clock of now. -/
theorem IsEarliest.offset_eq (h : IsEarliest now as due) : due.offset = now.offset := by
  obtain ⟨a, -, ha⟩ := h.is_due
  exact (Moment.reading_of_later? ha).2

/-- One association is due when it is due. -/
theorem IsEarliest.single (h : now.later? a.renewAfter = some due) : IsEarliest now [a] due where
  is_due := ⟨a, List.mem_singleton_self a, h⟩
  notAfter a' ha' due' hdue' := by
    obtain rfl := List.mem_singleton.mp ha'
    obtain rfl := Option.some.inj (h.symm.trans hdue')
    exact (Moment.notAfter_iff_of_offset_eq rfl).mpr (Nat.le_refl _)

/-- **One step of the search** keeps the earliest moment of what was seen. -/
theorem IsEarliest.step (hnow : Moment.origin.before now = true) (h : IsEarliest now seen found)
    (hstep : earliest now found a = .ok next) : IsEarliest now (seen ++ [a]) next := by
  obtain ⟨b, hb, hfound⟩ := h.is_due
  rw [earliest_eq] at hstep
  rcases hdue : now.later? a.renewAfter with _ | due
  · simp only [hdue] at hstep
    cases hstep
  · -- something was found before, so the moments are compared
    simp only [hdue, Moment.same_origin_of_later? hnow hfound, Bool.false_or,
      Except.ok.injEq] at hstep
    have hclock : due.offset = found.offset :=
      (Moment.reading_of_later? hdue).2.trans h.offset_eq.symm
    have hother : ∀ {due' seconds}, now.later? seconds = some due' → found.offset = due'.offset :=
      fun hdue' => h.offset_eq.trans (Moment.reading_of_later? hdue').2.symm
    by_cases hlt : due.reading < found.reading
    · rw [if_pos ((Moment.before_iff_of_offset_eq hclock).mpr hlt)] at hstep
      subst hstep
      refine ⟨⟨a, by simp, hdue⟩, ?_⟩
      intro a' ha' due' hdue'
      rw [Moment.notAfter_iff_of_offset_eq (hclock.trans (hother hdue'))]
      rcases List.mem_append.mp ha' with hseen | hnew
      · -- it is earlier than the earliest, which is not after any other
        have hle := (Moment.notAfter_iff_of_offset_eq (hother hdue')).mp
          (h.notAfter a' hseen due' hdue')
        omega
      · obtain rfl := List.mem_singleton.mp hnew
        obtain rfl := Option.some.inj (hdue.symm.trans hdue')
        exact Nat.le_refl _
    · rw [if_neg (mt (Moment.before_iff_of_offset_eq hclock).mp hlt)] at hstep
      subst hstep
      refine ⟨⟨b, List.mem_append_left [a] hb, hfound⟩, ?_⟩
      intro a' ha' due' hdue'
      rcases List.mem_append.mp ha' with hseen | hnew
      · exact h.notAfter a' hseen due' hdue'
      · obtain rfl := List.mem_singleton.mp hnew
        obtain rfl := Option.some.inj (hdue.symm.trans hdue')
        rw [Moment.notAfter_iff_of_offset_eq hclock.symm]
        omega

/-- **So does the search through a list**, if something was found before it. -/
theorem IsEarliest.foldlM (hnow : Moment.origin.before now = true) (h : IsEarliest now seen found)
    (hfold : as.foldlM (earliest now) found = .ok due) : IsEarliest now (seen ++ as) due := by
  -- the induction is on what is left, with what was seen on the left
  induction as generalizing seen found with
  | nil =>
    cases hfold
    rw [List.append_nil]
    exact h
  | cons a as ih =>
    rw [List.foldlM_cons, bind_eq_ok_iff] at hfold
    obtain ⟨next, hstep, hrest⟩ := hfold
    rw [List.append_cons]
    exact ih (h.step hnow hstep) hrest

/-- **A search from the start of the calendar** finds the earliest moment, if there is anything to
find. -/
theorem isEarliest_of_foldlM (hnow : Moment.origin.before now = true) (hne : as ≠ [])
    (hfold : as.foldlM (earliest now) Moment.origin = .ok due) : IsEarliest now as due := by
  obtain ⟨a, rest, rfl⟩ := List.exists_cons_of_ne_nil hne
  rw [List.foldlM_cons, bind_eq_ok_iff] at hfold
  obtain ⟨first, hstep, hrest⟩ := hfold
  refine IsEarliest.foldlM hnow (.single ?_) hrest
  -- nothing was found yet, so the first association is not compared with anything
  rw [earliest_eq] at hstep
  rcases hdue : now.later? a.renewAfter with _ | due
  · simp only [hdue] at hstep
    cases hstep
  · have horigin : Moment.origin.same Moment.origin = true := rfl
    simp only [hdue, horigin, Bool.true_or, if_true] at hstep
    rw [Except.ok.inj hstep]

/-- There is one earliest moment, whatever the order of the associations. -/
theorem IsEarliest.unique {as' : List Wire.Association} {due' : Moment}
    (h : IsEarliest now as due) (h' : IsEarliest now as' due') (hsame : ∀ a, a ∈ as ↔ a ∈ as') :
    due = due' := by
  obtain ⟨a, ha, hdue⟩ := h.is_due
  obtain ⟨a', ha', hdue'⟩ := h'.is_due
  exact Moment.eq_of_notAfter_of_notAfter (h.offset_eq.trans h'.offset_eq.symm)
    (h.notAfter a' ((hsame a').mpr ha') due' hdue') (h'.notAfter a ((hsame a).mp ha) due hdue)

/-- A moment at which something is due is not the start of the calendar. -/
theorem isHeld_of_isEarliest {l : Lease} (hnow : Moment.origin.before now = true)
    (h : IsEarliest now as l.renewAfter) : l.isHeld = true := by
  obtain ⟨a, -, hdue⟩ := h.is_due
  rw [isHeld, Moment.same_origin_of_later? hnow hdue]
  rfl

end Lease

/-! ### Replies -/

/-- The delegations of a message. -/
def Message.delegations (m : Message) : List Wire.DhcpOption :=
  m.options.filter (·.isA Message.delegation)

/-- A message has no associations exactly if it has no delegation. -/
theorem Message.associations_eq_nil_iff {m : Message} {as : List Wire.Association}
    (h : m.associations = .ok as) : as = [] ↔ m.hasOption Message.delegation = false := by
  have hlength : m.delegations.length = as.length := (mapM_eq_ok_iff.mp h).length_eq
  rw [← List.length_eq_zero_iff, ← hlength, List.length_eq_zero_iff, delegations,
    List.filter_eq_nil_iff, hasOption, List.any_eq_false]

namespace Lease

variable {now : Moment} {reply : Message} {as : List Wire.Association}

/-- **A lease is renewed when the first association is due, and loses nothing.** Let a Reply arrive
behind the start of the calendar, with associations that can be told and are due within the
calendar. It grants a lease. Without a delegation no renewal is due and the lease is not held; with
one it is held, and its renewal is due when an association is and not after any other. A Reply with
the same delegations in another order grants a lease with the same renewal. Networks and name
servers are those of the Reply, in order and with repetitions. -/
theorem ofReply_earliest (has : reply.associations = .ok as)
    (hnow : Moment.origin.before now = true)
    (hdue : ∀ a ∈ as, (now.later? a.renewAfter).isSome) :
    ∃ l, ofReply reply now = .ok l ∧
      (reply.hasOption Message.delegation = false →
        l.renewAfter = Moment.origin ∧ l.isHeld = false) ∧
      (reply.hasOption Message.delegation = true →
        l.isHeld = true ∧ IsEarliest now as l.renewAfter) ∧
      (∀ reply' : Message, reply'.delegations.Perm reply.delegations →
        ∃ l', ofReply reply' now = .ok l' ∧ l'.renewAfter = l.renewAfter) ∧
      l.networks = as.flatMap (fun a => a.networks.map (·.network)) ∧
      l.nameServers = reply.nameServers.map .text := by
  obtain ⟨l, hl⟩ := ofReply_of_due has hdue
  obtain ⟨as₁, has₁, hrenew, hnetworks, hservers⟩ := ofReply_eq_ok hl
  obtain rfl := Except.ok.inj (has₁.symm.trans has)
  have hnil := Message.associations_eq_nil_iff has
  refine ⟨l, hl, ?_, ?_, ?_, hnetworks, hservers⟩
  · -- there is nothing to search
    intro hnone
    rw [hnil.mpr hnone] at hrenew
    have horigin : l.renewAfter = Moment.origin := (Except.ok.inj hrenew).symm
    exact ⟨horigin, by rw [isHeld, horigin]; rfl⟩
  · intro hsome
    have hne : as₁ ≠ [] := by
      intro hempty
      rw [hnil.mp hempty] at hsome
      cases hsome
    have hearliest := isEarliest_of_foldlM hnow hne hrenew
    exact ⟨isHeld_of_isEarliest hnow hearliest, hearliest⟩
  · intro reply' hperm
    -- the associations of the other Reply are the same ones in another order
    obtain ⟨as', has', hperm'⟩ := mapM_perm hperm has
    have hdue' : ∀ a ∈ as', (now.later? a.renewAfter).isSome :=
      fun a ha => hdue a (hperm'.mem_iff.mp ha)
    obtain ⟨l', hl'⟩ := ofReply_of_due has' hdue'
    obtain ⟨as₂, has₂, hrenew', -, -⟩ := ofReply_eq_ok hl'
    obtain rfl := Except.ok.inj (has₂.symm.trans has')
    refine ⟨l', hl', ?_⟩
    by_cases hempty : as₁ = []
    · -- neither search finds anything
      subst hempty
      obtain rfl := hperm'.eq_nil
      rw [← Except.ok.inj hrenew, ← Except.ok.inj hrenew']
    · have hempty' : as₂ ≠ [] := fun h => hempty (by rw [h] at hperm'; exact hperm'.symm.eq_nil)
      exact (isEarliest_of_foldlM hnow hempty' hrenew').unique
        (isEarliest_of_foldlM hnow hempty hrenew) fun a => hperm'.mem_iff

/-- The first moment behind the start of the calendar. -/
def firstMoment : Moment := ⟨1, some Offset.zero, by decide⟩

/-- A Reply with two associations, of which the second is due as soon as it arrives. -/
def grantedReply : Message :=
  .messageOf .reply default (Message.grantedOptions.map Wire.ServerOption.octets)

/-- The Reply arrives at the first moment that there can be. Its renewal is due at once, and the
lease is held all the same, with a hundred networks. -/
theorem ofReply_earliest_of_idle_timer :
    ∃ as l, grantedReply.associations = .ok as ∧ Moment.origin.before firstMoment = true ∧
      (∀ a ∈ as, (firstMoment.later? a.renewAfter).isSome) ∧
      grantedReply.hasOption Message.delegation = true ∧
      ofReply grantedReply firstMoment = .ok l ∧ l.isHeld = true ∧
      l.renewAfter.NotAfter firstMoment ∧ l.networks.length = 100 := by
  have has : grantedReply.associations = .ok [Wire.AssociationOption.association
      Message.fullAssociation, Wire.AssociationOption.association Message.emptyAssociation] :=
    Message.mapM_association_ofRead Message.grantedOptions
  have hnow : Moment.origin.before firstMoment = true := by decide
  have hdue : ∀ a ∈ [Wire.AssociationOption.association Message.fullAssociation,
      Wire.AssociationOption.association Message.emptyAssociation],
      (firstMoment.later? a.renewAfter).isSome := by
    intro a ha
    rcases List.mem_pair.mp ha with rfl | rfl
    · decide +kernel
    · decide +kernel
  have hsome : grantedReply.hasOption Message.delegation = true := by decide +kernel
  obtain ⟨l, hl, -, hheld, -, hnetworks, -⟩ := ofReply_earliest has hnow hdue
  obtain ⟨hheld, hearliest⟩ := hheld hsome
  -- the second association is due at the arrival
  have harrival : firstMoment.later? (Wire.AssociationOption.association
      Message.emptyAssociation).renewAfter = some firstMoment := by
    decide +kernel
  exact ⟨_, l, has, hnow, hdue, hsome, hl, hheld, hearliest.notAfter _ (by simp) _ harrival,
    by rw [hnetworks]; rfl⟩

end Lease

end PrefixDelegation
