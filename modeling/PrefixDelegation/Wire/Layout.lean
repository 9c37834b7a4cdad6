import PrefixDelegation.Octets

/-!
# How many octets an option takes

An option starts with a code and a declared length, two octets each. What it takes from the
octets at hand depends on the code:

* options of a fixed size ignore the declared length and fail when too few octets are left;
* identifiers take the declared length, or what is left if that is less;
* lists of addresses take whole addresses of sixteen octets and leave a remainder behind;
* framed options have some fixed fields, followed by as many octets as the declared length says
  beyond those fields, or what is left if that is less. A declared length that does not even
  cover the fields takes octets back from the end of what is left.

`extent?` computes this; whatever the octets are, the result covers at least the four octets of
the header and at most what is there (`extent?_bounds`).
-/

namespace PrefixDelegation.Wire

/-- The shape of an option behind its code and declared length. -/
inductive Layout where
  /-- `fields` octets behind the header, whatever the declared length. -/
  | sized (fields : Nat)
  /-- An identifier of the declared length. -/
  | identifier
  /-- A list of addresses. -/
  | addresses
  /-- Fixed fields of `fields` octets and then a list of options. -/
  | holding (fields : Nat)
  /-- Fixed fields of `fields` octets and then data. -/
  | data (fields : Nat)
deriving Repr, DecidableEq

/-- The layout of the options with a code. -/
def Layout.ofCode (code : Nat) : Layout :=
  if code = 1 ∨ code = 2 then .identifier
  else if code ∈ [22, 23, 27, 28, 31, 34, 40, 48] then .addresses
  else if code = 3 ∨ code = 25 then .holding 12
  else if code = 4 then .holding 4
  else if code = 5 then .holding 24
  else if code = 26 then .holding 25
  else if code = 13 then .data 2
  else if code = 37 then .data 4
  else if code = 11 then .data 11
  else if code = 14 ∨ code = 20 ∨ code = 148 then .sized 0
  else if code = 7 ∨ code = 19 then .sized 1
  else if code = 8 then .sized 2
  else if code = 62 then .sized 3
  else if code = 32 then .sized 4
  else if code = 12 then .sized 16
  else .data 0

/-- Whether a list of options goes on behind an option with this code. Other codes end the list. -/
def isListable (code : Nat) : Bool :=
  match Layout.ofCode code with
  | .data 0 => code ∈ [6, 18, 21, 24, 33, 38, 41, 42, 59, 65, 103, 112]
  | _ => true

/-- Whether what follows an option with this code is not read as options. -/
def endsChain (code : Nat) : Bool := code == 5 || code == 26

/-- The code at the front of some octets. -/
def codeOf (bs : Octets) : Nat := Octets.toNat (bs.take 2)

/-- The declared length at the front of some octets. -/
def declaredOf (bs : Octets) : Nat := Octets.toNat ((bs.drop 2).take 2)

/-- The octets that a framed option takes behind its fields, of those available. -/
def framedLength (fields declared available : Nat) : Nat :=
  if fields ≤ declared then min (declared - fields) available
  else available - (fields - declared)

/-- The octets an option of a layout takes, header included, of `length` octets at hand. -/
def Layout.extent? (layout : Layout) (declared length : Nat) : Option Nat :=
  if length < 4 then none
  else match layout with
    | .sized fields => if length < 4 + fields then none else some (4 + fields)
    | .identifier => some (4 + min declared (length - 4))
    | .addresses => some (4 + 16 * (min declared (length - 4) / 16))
    | .holding fields | .data fields =>
      if length < 4 + fields then none
      else some (4 + fields + framedLength fields declared (length - (4 + fields)))

/-- The octets the option at the front of some octets takes. -/
def extent? (bs : Octets) : Option Nat :=
  (Layout.ofCode (codeOf bs)).extent? (declaredOf bs) bs.length

/-- The list of options that the option at the front holds, given how many octets it takes. -/
def heldBy (bs : Octets) (extent : Nat) : Octets :=
  match Layout.ofCode (codeOf bs) with
  | .holding fields => (bs.take extent).drop (4 + fields)
  | _ => []

theorem framedLength_le (fields declared available : Nat) :
    framedLength fields declared available ≤ available := by
  unfold framedLength
  split <;> omega

theorem Layout.extent?_bounds {layout : Layout} {declared length n : Nat}
    (h : layout.extent? declared length = some n) : 4 ≤ n ∧ n ≤ length := by
  unfold Layout.extent? at h
  split at h
  · -- fewer octets than a header
    simp at h
  · next h4 =>
    cases layout with
    | sized fields =>
      simp only at h
      split at h
      · simp at h
      · simp only [Option.some.injEq] at h
        omega
    | identifier =>
      simp only [Option.some.injEq] at h
      omega
    | addresses =>
      simp only [Option.some.injEq] at h
      omega
    | holding fields =>
      simp only at h
      split at h
      · simp at h
      · -- the fields, and at most what is left behind them
        simp only [Option.some.injEq] at h
        have := framedLength_le fields declared (length - (4 + fields))
        omega
    | data fields =>
      simp only at h
      split at h
      · simp at h
      · -- the fields, and at most what is left behind them
        simp only [Option.some.injEq] at h
        have := framedLength_le fields declared (length - (4 + fields))
        omega

/-- An option takes at least its header and at most what is there. -/
theorem extent?_bounds {bs : Octets} {n : Nat} (h : extent? bs = some n) :
    4 ≤ n ∧ n ≤ bs.length :=
  Layout.extent?_bounds h

/-- What an option holds is shorter than the octets it was found in. -/
theorem heldBy_length_lt {bs : Octets} {n : Nat} (h : extent? bs = some n) :
    (heldBy bs n).length < bs.length := by
  have := extent?_bounds h
  unfold heldBy
  split
  · simp only [List.length_drop, List.length_take]
    omega
  · simp only [List.length_nil]
    omega

/-- What follows an option is shorter than the octets it was found in. -/
theorem drop_extent_length_lt {bs : Octets} {n : Nat} (h : extent? bs = some n) :
    (bs.drop n).length < bs.length := by
  have := extent?_bounds h
  simp only [List.length_drop]
  omega

end PrefixDelegation.Wire
