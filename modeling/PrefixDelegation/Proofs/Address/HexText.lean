import PrefixDelegation.Proofs.Address.AddressText
import PrefixDelegation.Proofs.Identity.DuidText

/-!
# Hexadecimal digits of a fixed width

Digits of either case that denote a number are, in small letters, the numeral of that number in as
many places as there are digits (`Address.map_toLower_eq_fixed`). What is true of the digits is thus
true of the number: the digits at the front are the front of the number (`Text.take_fixed`), and
two digits at a time they are its octets (`Octets.exists_ofHex?`).
-/

namespace PrefixDelegation

open Text Address

namespace Address

variable {s : List Char} {c : Char} {value : Nat}

/-- A digit more at the end. -/
theorem hexValue?_concat_eq_some : hexValue? (s ++ [c]) = some value ↔
    ∃ front digit, hexValue? s = some front ∧ hexDigit? c = some digit ∧
      16 * front + digit = value := by
  unfold hexValue?
  simp only [List.foldlM_append, List.foldlM_cons, List.foldlM_nil, Option.bind_eq_bind,
    Option.bind_eq_some_iff, Option.map_eq_some_iff, Option.pure_def, Option.some.injEq]
  constructor
  · rintro ⟨front, hfront, _, ⟨digit, hdigit, rfl⟩, rfl⟩
    exact ⟨front, digit, hfront, hdigit, rfl⟩
  · rintro ⟨front, digit, hfront, hdigit, rfl⟩
    exact ⟨front, hfront, _, ⟨digit, hdigit, rfl⟩, rfl⟩

/-- A number has no more digits than it was given by. -/
theorem hexValue?_lt (h : hexValue? s = some value) : value < 16 ^ s.length := by
  induction s using List.reverseRecOn generalizing value with
  | nil =>
    cases h
    decide
  | append_singleton s c ih =>
    obtain ⟨front, digit, hfront, hdigit, rfl⟩ := hexValue?_concat_eq_some.mp h
    have hlt := ih hfront
    have hdigit_lt := (hexDigit?_eq_some_iff.mp hdigit).1
    rw [List.length_append, List.length_singleton, Nat.pow_succ]
    omega

/-- A digit in small letters is the one that is written for its value. -/
theorem toLower_of_hexDigit? {n : Nat} (h : hexDigit? c = some n) : c.toLower = digitChar n := by
  obtain ⟨hn, rfl | rfl⟩ := hexDigit?_eq_some_iff.mp h
  · interval_cases n <;> rfl
  · interval_cases n <;> rfl

/-- **In small letters, digits are the numeral of the number that they denote.** -/
theorem map_toLower_eq_fixed (h : hexValue? s = some value) :
    s.map Char.toLower = fixed 16 s.length value := by
  induction s using List.reverseRecOn generalizing value with
  | nil => rfl
  | append_singleton s c ih =>
    obtain ⟨front, digit, hfront, hdigit, rfl⟩ := hexValue?_concat_eq_some.mp h
    have hdigit_lt := (hexDigit?_eq_some_iff.mp hdigit).1
    have hquotient : (16 * front + digit) / 16 = front := by omega
    have hremainder : (16 * front + digit) % 16 = digit := by omega
    rw [List.map_append, ih hfront, List.map_singleton, toLower_of_hexDigit? hdigit,
      List.length_append, List.length_singleton, fixed, hquotient, hremainder]

end Address

namespace Text

/-- The digits at the front of a numeral are those of a quotient. -/
theorem take_fixed (base width more n : Nat) :
    (fixed base (width + more) n).take width = fixed base width (n / base ^ more) := by
  induction more generalizing n with
  | zero =>
    rw [Nat.pow_zero, Nat.div_one]
    exact List.take_of_length_le (Nat.le_of_eq (length_fixed base width n))
  | succ more ih =>
    have hlen : width ≤ (fixed base (width + more) (n / base)).length := by
      rw [length_fixed]
      exact Nat.le_add_right width more
    rw [← Nat.add_assoc, fixed, List.take_append_of_le_length hlen, ih, Nat.div_div_eq_div_mul,
      Nat.pow_succ']

/-- A numeral of a fixed width is that of one number only. -/
theorem fixed_inj {width n n' : Nat} (h : n < 16 ^ width) (h' : n' < 16 ^ width) :
    fixed 16 width n = fixed 16 width n' ↔ n = n' := by
  refine ⟨fun heq => ?_, fun heq => heq ▸ rfl⟩
  have hread := foldlM_fixed (fun _ => hexDigit?_digitChar) 0 h
  rw [heq, foldlM_fixed (fun _ => hexDigit?_digitChar) 0 h'] at hread
  simpa using hread.symm

end Text

namespace Octets

/-- Digits that denote a number are read as its octets, behind what was read before. -/
theorem exists_ofHex?_of_foldlM {s : List Char} {count start value : Nat}
    (hlen : s.length = 2 * count)
    (h : s.foldlM (fun n c => (hexDigit? c).map (16 * n + ·)) start = some value) :
    ∃ octets : Octets, ofHex? s = some octets ∧
      octets.foldl (fun n b => 256 * n + b.toNat) start = value := by
  -- the induction is on the octets, two digits each
  induction count generalizing s start with
  | zero =>
    obtain rfl : s = [] := List.length_eq_zero_iff.mp hlen
    exact ⟨[], rfl, Option.some.inj h⟩
  | succ count ih =>
    obtain ⟨c, d, s, rfl⟩ : ∃ c d t, s = c :: d :: t := by
      match s, hlen with
      | c :: d :: t, _ => exact ⟨c, d, t, rfl⟩
    rw [List.foldlM_cons] at h
    obtain ⟨_, hfirst, h⟩ := Option.bind_eq_some_iff.mp h
    obtain ⟨high, hhigh, rfl⟩ := Option.map_eq_some_iff.mp hfirst
    rw [List.foldlM_cons] at h
    obtain ⟨_, hsecond, h⟩ := Option.bind_eq_some_iff.mp h
    obtain ⟨low, hlow, rfl⟩ := Option.map_eq_some_iff.mp hsecond
    have hrest : s.length = 2 * count := by
      simp only [List.length_cons] at hlen
      omega
    obtain ⟨octets, hread, hvalue⟩ := ih hrest h
    have hhigh_lt := (hexDigit?_eq_some_iff.mp hhigh).1
    have hlow_lt := (hexDigit?_eq_some_iff.mp hlow).1
    have hoctet : (UInt8.ofNat (16 * high + low)).toNat = 16 * high + low := by
      rw [UInt8.toNat_ofNat']
      omega
    refine ⟨UInt8.ofNat (16 * high + low) :: octets, ?_, ?_⟩
    · rw [ofHex?_pair (Duid.isAsciiBlank_eq_false_of_digit hhigh), hhigh, hlow, hread]
      rfl
    · rw [List.foldl_cons, hoctet, ← hvalue]
      congr 1
      ring

/-- **Digits that denote a number are read as its octets**, two digits an octet. -/
theorem exists_ofHex? {s : List Char} {count value : Nat} (hlen : s.length = 2 * count)
    (h : hexValue? s = some value) : ∃ octets, ofHex? s = some octets ∧ toNat octets = value :=
  exists_ofHex?_of_foldlM hlen h

end Octets

end PrefixDelegation
