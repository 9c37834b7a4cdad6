import PrefixDelegation.Proofs.Wire.OptionList

/-!
# Options that are read again elsewhere

An option that was read can be copied, octet by octet, into another message. There it stands among
other octets, and need not be read as it was: what an option takes depends on the declared length,
which may be more than the option carries, if the octets it was read from came to their end, or
less than the fields that it has.

`WasRead` says what is known of an option that was read: it took its octets of some, and it holds
few enough others. Two layouts matter for copies. An identifier that carries as many octets as it
declares is complete, and is read as it was wherever it stands; one that was cut off takes more when
anything stands behind it (`extent?_of_cut`). An option with fixed fields and a list, which declares
at least the fields, is read as it was at the end of a message (`WasRead.extent?_self`), though
perhaps not in front of others.
-/

namespace PrefixDelegation

namespace Wire

variable {o : Octets}

/-- What is known of an option that was read. -/
structure WasRead (o : Octets) : Prop where
  /-- It took its own octets of those it was read from. -/
  takes : ∃ behind, extent? (o ++ behind) = some o.length
  /-- It does not hold too many others. -/
  not_crowded : ¬ isCrowded o o.length

/-- An option that was read has a header. -/
theorem WasRead.four_le (h : WasRead o) : 4 ≤ o.length := by
  obtain ⟨behind, hbehind⟩ := h.takes
  exact (extent?_bounds hbehind).1

/-- The option at the front of some octets was read, if it can be. -/
theorem wasRead_take {bs : Octets} {n : Nat} (h : extent? bs = some n)
    (hcrowd : ¬ isCrowded bs n) : WasRead (bs.take n) where
  takes := ⟨bs.drop n, by rw [List.take_append_drop, length_take_extent h]; exact h⟩
  not_crowded := by
    -- what it holds is found among its own octets
    have hheld : heldBy (bs.take n) n = heldBy bs n := by
      rw [heldBy, heldBy, codeOf_take_extent h, List.take_take, Nat.min_self]
    rw [length_take_extent h, isCrowded, hheld]
    exact hcrowd

/-- **The options of a chain were read.** -/
theorem Chain.wasRead_of_mem {bs : Octets} (h : o ∈ (Chain.read bs).options) : WasRead o := by
  fun_induction Chain.read bs with
  | case1 bs hnone => cases h
  | case2 bs n hsome crowded => cases h
  | case3 bs n hsome crowded ends =>
    obtain rfl := List.mem_singleton.mp h
    exact wasRead_take hsome crowded
  | case4 bs n hsome crowded ends rest ih =>
    rcases List.mem_cons.mp h with rfl | hrest
    · exact wasRead_take hsome crowded
    · exact ih hrest

/-! ### Identifiers -/

section Identifier

variable (hlayout : Layout.ofCode (codeOf o) = .identifier)
include hlayout

/-- An identifier that carries as many octets as it declares is complete. -/
theorem WasRead.isComplete (h : WasRead o) (hlength : o.length = 4 + declaredOf o) :
    IsComplete o where
  length_eq := hlength
  suits := by
    rw [hlayout]
    trivial
  not_crowded := h.not_crowded

/-- It never carries more. -/
theorem WasRead.length_le (h : WasRead o) : o.length ≤ 4 + declaredOf o := by
  obtain ⟨behind, hbehind⟩ := h.takes
  rw [extent?, codeOf_append h.four_le, declaredOf_append h.four_le, hlayout,
    Layout.extent?.eq_def] at hbehind
  split at hbehind
  · cases hbehind
  · have hlength := Option.some.inj hbehind
    omega

/-- An identifier holds no options, so it does not hold too many. -/
theorem not_isCrowded_of_identifier (n : Nat) : ¬ isCrowded o n := by
  rw [isCrowded, heldBy, hlayout]
  simp [elements, extent?, Layout.extent?]

/-- **An identifier that was cut off takes more** than it carries, when anything stands behind
it. -/
theorem Chain.read_of_cut (hfour : 4 ≤ o.length) (hcut : o.length < 4 + declaredOf o)
    (hends : ¬ endsChain (codeOf o)) {behind : Octets} (hbehind : behind ≠ []) :
    ∃ more rest, more ≠ [] ∧ (Chain.read (o ++ behind)).options = (o ++ more) :: rest := by
  have hpos := List.length_pos_iff.mpr hbehind
  have hlength : (o ++ behind).length = o.length + behind.length := List.length_append
  have hcode : codeOf (o ++ behind) = codeOf o := codeOf_append hfour
  -- what is declared is looked for behind the copy
  obtain ⟨n, hn, hlt⟩ : ∃ n, extent? (o ++ behind) = some n ∧ o.length < n := by
    refine ⟨4 + min (declaredOf o) ((o ++ behind).length - 4), ?_, by omega⟩
    rw [extent?, hcode, declaredOf_append hfour, hlayout, Layout.extent?.eq_def, if_neg (by omega)]
  have hread := Chain.read_of_extent? hn
    (not_isCrowded_of_identifier (by rw [hcode]; exact hlayout) n) (by rw [hcode]; exact hends)
  rw [List.take_append, List.take_of_length_le (Nat.le_of_lt hlt)] at hread
  refine ⟨behind.take (n - o.length), _, ?_, congrArg Chain.options hread⟩
  rw [← List.length_pos_iff, List.length_take]
  omega

end Identifier

/-! ### Options with fields and a list -/

/-- **An option that declares at least its fields is read as it was at the end of a message.** -/
theorem WasRead.extent?_self {fields : Nat}
    (hlayout : Layout.ofCode (codeOf o) = .holding fields) (h : WasRead o)
    (hdeclared : fields ≤ declaredOf o) : extent? o = some o.length := by
  obtain ⟨behind, hbehind⟩ := h.takes
  have hlength : (o ++ behind).length = o.length + behind.length := List.length_append
  rw [extent?, codeOf_append h.four_le, declaredOf_append h.four_le, hlayout,
    Layout.extent?.eq_def, if_neg (by have := h.four_le; omega)] at hbehind
  simp only [framedLength, if_pos hdeclared] at hbehind
  split at hbehind
  · cases hbehind
  · have hown := Option.some.inj hbehind
    rw [extent?, hlayout, Layout.extent?.eq_def, if_neg (by omega)]
    simp only [framedLength, if_pos hdeclared]
    rw [if_neg (by omega), Option.some.injEq]
    omega

/-- At the end of a message such an option is the last of its chain. -/
theorem Chain.read_of_extent?_self (h : WasRead o) (hself : extent? o = some o.length)
    (hends : ¬ endsChain (codeOf o)) : Chain.read o = ⟨[o], .nothing⟩ := by
  have hread := Chain.read_of_extent? hself h.not_crowded hends
  rw [List.take_length, List.drop_length, Chain.read_nil] at hread
  exact hread

end Wire

end PrefixDelegation
