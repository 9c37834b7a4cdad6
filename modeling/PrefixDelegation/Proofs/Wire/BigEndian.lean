import Mathlib.Data.List.Induction
import Mathlib.Tactic.Common
import Mathlib.Tactic.Ring
import PrefixDelegation.Octets

/-!
# Numbers in network byte order

`Octets.ofNat` writes a number into a fixed count of octets and `Octets.toNat` reads octets as a
number. What is written can be read back when the number fits (`Octets.toNat_ofNat`), and what is
read is written back as it was (`Octets.ofNat_toNat`); what is read from `k` octets is below
`256 ^ k` (`Octets.toNat_lt`). All come from how a number is read from two strings of octets put
together (`Octets.toNat_append`).
-/

namespace PrefixDelegation.Octets

/-- A written number takes the octets it was given. -/
@[simp] theorem length_ofNat (width n : Nat) : (ofNat width n).length = width := by
  induction width generalizing n with
  | zero => rfl
  | succ width ih =>
    rw [ofNat, List.length_append, ih]
    rfl

/-- Reading may start from any number: it is moved up by the octets that follow it. -/
theorem foldl_eq (n : Nat) (bs : Octets) :
    bs.foldl (fun n b => 256 * n + b.toNat) n = 256 ^ bs.length * n + toNat bs := by
  induction bs generalizing n with
  | nil => simp [toNat]
  | cons b bs ih =>
    -- from zero, the first octet is the number that the others move up
    have hread : toNat (b :: bs) = 256 ^ bs.length * b.toNat + toNat bs := by
      rw [toNat, List.foldl_cons, ih, Nat.mul_zero, Nat.zero_add]
    rw [List.foldl_cons, ih, hread, List.length_cons]
    ring

/-- The octets of two strings put together, read as one number. -/
theorem toNat_append (xs ys : Octets) :
    toNat (xs ++ ys) = 256 ^ ys.length * toNat xs + toNat ys := by
  rw [toNat, List.foldl_append, foldl_eq]
  rfl

/-- The last octet is the lowest. -/
theorem toNat_concat (bs : Octets) (b : UInt8) : toNat (bs ++ [b]) = 256 * toNat bs + b.toNat := by
  have hb : toNat [b] = b.toNat := by simp [toNat]
  rw [toNat_append, hb, List.length_singleton, pow_one]

/-- A number that is read from `k` octets is below `256 ^ k`. -/
theorem toNat_lt (bs : Octets) : toNat bs < 256 ^ bs.length := by
  -- from the end, since the last octet is the lowest
  induction bs using List.reverseRecOn with
  | nil => decide
  | append_singleton bs b ih =>
    have hb_lt : b.toNat < 256 := b.toNat_lt
    rw [toNat_concat, List.length_append, List.length_singleton, pow_succ]
    omega

/-- So is one that is read from as many octets at most. -/
theorem toNat_take_lt (k : Nat) (bs : Octets) : toNat (bs.take k) < 256 ^ k :=
  calc toNat (bs.take k)
    _ < 256 ^ (bs.take k).length := toNat_lt _
    _ ≤ 256 ^ k := Nat.pow_le_pow_right (by decide) (List.length_take_le k bs)

/-- A number that fits is read back as it was written. -/
theorem toNat_ofNat {width n : Nat} (h : n < 256 ^ width) : toNat (ofNat width n) = n := by
  induction width generalizing n with
  | zero =>
    have hn : n = 0 := by simpa using h
    rw [hn]
    rfl
  | succ width ih =>
    have hhigh : n / 256 < 256 ^ width := by
      rw [pow_succ] at h
      exact Nat.div_lt_of_lt_mul (by omega)
    have hlow : (UInt8.ofNat n).toNat = n % 256 := by simp
    rw [ofNat, toNat_concat, ih hhigh, hlow]
    exact Nat.div_add_mod n 256

/-- Octets are given back when the number that they are read as is written again. -/
theorem ofNat_toNat (bs : Octets) : ofNat bs.length (toNat bs) = bs := by
  induction bs using List.reverseRecOn with
  | nil => rfl
  | append_singleton bs b ih =>
    have hb_lt : b.toNat < 256 := b.toNat_lt
    -- writing takes the last octet off, and leaves the number of those before it
    have hhigh : (256 * toNat bs + b.toNat) / 256 = toNat bs := by omega
    have hlow : UInt8.ofNat (256 * toNat bs + b.toNat) = b := by
      apply UInt8.toNat_inj.mp
      rw [UInt8.toNat_ofNat']
      omega
    rw [toNat_concat, List.length_append, List.length_singleton, ofNat, hhigh, hlow, ih]

end PrefixDelegation.Octets
