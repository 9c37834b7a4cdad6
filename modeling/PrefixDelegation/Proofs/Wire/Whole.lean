import PrefixDelegation.Proofs.Wire.BigEndian
import PrefixDelegation.Wire.Option

/-!
# Whole options

An option is *whole* if it takes exactly its own octets, whatever stands behind it. A whole option
at the front of some octets is read as it is, and reading goes on behind it, in a list
(`elements_append`) as in a chain (`Chain.read_append`).

An option is *complete* (`IsComplete`) if it declares the length of its body, that length suits the
layout of its code (`Layout.Suits`), and the list that it holds is not too long. This is what the
sender of an option has to see to. Complete options are whole (`IsComplete.isWhole`), whatever their
layout, and what is composed of a body with a suitable length is complete (`isComplete_compose`).
-/

namespace PrefixDelegation.Wire

variable {o rest : Octets}

/-- The option takes its own octets whatever stands behind it. -/
def IsWhole (o : Octets) : Prop := ∀ rest, extent? (o ++ rest) = some o.length

/-- A whole option has a header. -/
theorem IsWhole.four_le (h : IsWhole o) : 4 ≤ o.length := by
  have := extent?_bounds (h [])
  omega

/-- The code of an option with a header is its own, whatever stands behind it. -/
theorem codeOf_append (h : 4 ≤ o.length) : codeOf (o ++ rest) = codeOf o := by
  rw [codeOf, List.take_append_of_le_length (by omega), codeOf]

/-- So is its declared length. -/
theorem declaredOf_append (h : 4 ≤ o.length) : declaredOf (o ++ rest) = declaredOf o := by
  rw [declaredOf, List.drop_append_of_le_length (by omega),
    List.take_append_of_le_length (by rw [List.length_drop]; omega), declaredOf]

/-- What a whole option holds is found among its own octets. -/
theorem heldBy_append (h : IsWhole o) : heldBy (o ++ rest) o.length = heldBy o o.length := by
  rw [heldBy, heldBy, codeOf_append h.four_le, List.take_left, List.take_length]

/-- **Reading goes on behind a whole option.** If a list can go on with it and it can be read, a
whole option is an element where elements are listed, and what follows is listed if the option ends
the chain that it belongs to. -/
theorem elements_append {listed : Bool} (h : IsWhole o) (hcode : isListable (codeOf o))
    (hcrowd : ¬ isCrowded o o.length) :
    elements listed (o ++ rest) =
      (if listed then [.option o] else []) ++ elements (endsChain (codeOf o)) rest := by
  -- what the option holds is its own, and it holds few enough
  have hheld : ¬ (elements true (heldBy (o ++ rest) o.length)).length > elementLimit := by
    rw [heldBy_append h]
    simpa [isCrowded] using hcrowd
  rw [elements]
  split
  · next hnone =>
    rw [h rest] at hnone
    cases hnone
  · next n hsome =>
    -- the option takes its own octets, so neither of the raw cases is met
    rw [h rest, Option.some.injEq] at hsome
    subst hsome
    rw [codeOf_append h.four_le, hcode, if_neg (by simp), if_neg hheld, List.take_left,
      List.drop_left]
    cases listed <;> rfl

/-- What can be read at the front of some octets, and does not end the chain, is its first option,
and reading goes on behind it. -/
theorem Chain.read_of_extent? {bs : Octets} {n : Nat} (h : extent? bs = some n)
    (hcrowd : ¬ isCrowded bs n) (hends : ¬ endsChain (codeOf bs)) :
    Chain.read bs
      = ⟨bs.take n :: (Chain.read (bs.drop n)).options, (Chain.read (bs.drop n)).tail⟩ := by
  rw [Chain.read]
  split
  · next hnone =>
    rw [h] at hnone
    cases hnone
  · next n' hsome =>
    obtain rfl := Option.some.inj (h.symm.trans hsome)
    rw [if_neg hcrowd, if_neg hends]

/-- **A chain goes on behind a whole option**, if that can be read and does not end the chain. -/
theorem Chain.read_append (h : IsWhole o) (hcrowd : ¬ isCrowded o o.length)
    (hends : ¬ endsChain (codeOf o)) :
    Chain.read (o ++ rest) = ⟨o :: (Chain.read rest).options, (Chain.read rest).tail⟩ := by
  have hheld : ¬ isCrowded (o ++ rest) o.length := by
    rw [isCrowded, heldBy_append h]
    exact hcrowd
  have hread := Chain.read_of_extent? (h rest) hheld (by rw [codeOf_append h.four_le]; exact hends)
  rw [List.take_left, List.drop_left] at hread
  exact hread

/-! ### Complete options -/

/-- A declared length suits a layout if reading takes all of it: it is the size of the fixed fields,
or a multiple of that of an address, or it covers the fields in front of a list or of data. -/
def Layout.Suits (declared : Nat) : Layout → Prop
  | .sized fields => declared = fields
  | .identifier => True
  | .addresses => 16 ∣ declared
  | .holding fields | .data fields => fields ≤ declared

instance (declared : Nat) : (layout : Layout) → Decidable (layout.Suits declared)
  | .sized fields => inferInstanceAs (Decidable (declared = fields))
  | .identifier => inferInstanceAs (Decidable True)
  | .addresses => inferInstanceAs (Decidable (16 ∣ declared))
  | .holding fields | .data fields => inferInstanceAs (Decidable (fields ≤ declared))

/-- A suitable length is taken in full, of however many octets it is taken. -/
theorem Layout.extent?_of_suits {layout : Layout} {declared length : Nat}
    (hsuits : layout.Suits declared) (hlength : 4 + declared ≤ length) :
    layout.extent? declared length = some (4 + declared) := by
  have havailable : min declared (length - 4) = declared := by omega
  have hframed : ∀ fields ≤ declared,
      4 + fields + framedLength fields declared (length - (4 + fields)) = 4 + declared := by
    intro fields hfields
    rw [framedLength, if_pos hfields]
    omega
  rw [Layout.extent?.eq_def, if_neg (by omega)]
  cases layout with
  | sized fields =>
    obtain rfl : declared = fields := hsuits
    exact if_neg (by omega)
  | identifier =>
    simp only [havailable]
  | addresses =>
    -- no remainder is left behind
    have hwhole : 16 * (declared / 16) = declared := Nat.mul_div_cancel' hsuits
    simp only [havailable, hwhole]
  | holding fields =>
    have hfields : fields ≤ declared := hsuits
    simp only [hframed fields hfields]
    exact if_neg (by omega)
  | data fields =>
    have hfields : fields ≤ declared := hsuits
    simp only [hframed fields hfields]
    exact if_neg (by omega)

/-- An option is *complete*: it declares the length of its body, that length suits its code, and it
does not hold too many others. -/
structure IsComplete (o : Octets) : Prop where
  length_eq : o.length = 4 + declaredOf o
  suits : (Layout.ofCode (codeOf o)).Suits (declaredOf o)
  not_crowded : ¬ isCrowded o o.length

/-- Whether an option is complete can be decided. -/
instance (o : Octets) : Decidable (IsComplete o) :=
  decidable_of_iff (o.length = 4 + declaredOf o ∧
      (Layout.ofCode (codeOf o)).Suits (declaredOf o) ∧ ¬ isCrowded o o.length)
    ⟨fun ⟨hlength, hsuits, hcrowd⟩ => ⟨hlength, hsuits, hcrowd⟩,
      fun h => ⟨h.length_eq, h.suits, h.not_crowded⟩⟩

/-- **A complete option is whole**, whatever its layout. -/
theorem IsComplete.isWhole (h : IsComplete o) : IsWhole o := by
  intro rest
  have hfour : 4 ≤ o.length := by
    rw [h.length_eq]
    omega
  have hlength : 4 + declaredOf o ≤ (o ++ rest).length := by
    rw [List.length_append, h.length_eq]
    omega
  rw [extent?, codeOf_append hfour, declaredOf_append hfour,
    Layout.extent?_of_suits h.suits hlength, h.length_eq]

/-- An option that holds nothing is not crowded. -/
theorem not_isCrowded_of_heldBy (h : heldBy o o.length = []) : ¬ isCrowded o o.length := by
  rw [isCrowded, h]
  simp [elements, extent?, Layout.extent?]

/-! ### Composed options -/

section Compose

variable {code : UInt16} {body : Octets}

theorem length_compose (code : UInt16) (body : Octets) :
    (DhcpOption.compose code body).octets.length = 4 + body.length := by
  rw [DhcpOption.compose, List.length_append, List.length_append, Octets.length_ofNat,
    Octets.length_ofNat]

theorem codeOf_compose (code : UInt16) (body : Octets) :
    codeOf (DhcpOption.compose code body).octets = code.toNat := by
  have htake : (DhcpOption.compose code body).octets.take 2 = Octets.ofNat 2 code.toNat := by
    simp [DhcpOption.compose]
  rw [codeOf, htake, Octets.toNat_ofNat code.toNat_lt]

/-- The declared length is that of the body, if that fits. -/
theorem declaredOf_compose (code : UInt16) (hbody : body.length < 256 ^ 2) :
    declaredOf (DhcpOption.compose code body).octets = body.length := by
  have htake : ((DhcpOption.compose code body).octets.drop 2).take 2 =
      Octets.ofNat 2 body.length := by
    simp [DhcpOption.compose]
  rw [declaredOf, htake, Octets.toNat_ofNat hbody]

/-- What is composed with a body of a suitable length is complete, if it does not hold too many
options. -/
theorem isComplete_compose (hbody : body.length < 256 ^ 2)
    (hsuits : (Layout.ofCode code.toNat).Suits body.length)
    (hcrowd : ¬ isCrowded (DhcpOption.compose code body).octets
      (DhcpOption.compose code body).octets.length) :
    IsComplete (DhcpOption.compose code body).octets where
  length_eq := by rw [declaredOf_compose code hbody, length_compose]
  suits := by
    rw [codeOf_compose code body, declaredOf_compose code hbody]
    exact hsuits
  not_crowded := hcrowd

end Compose

end PrefixDelegation.Wire
