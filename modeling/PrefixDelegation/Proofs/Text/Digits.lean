import Mathlib.Tactic.Common
import Mathlib.Tactic.IntervalCases
import Mathlib.Tactic.Ring
import PrefixDelegation.Text.Numeral

/-!
# Digits and numerals are read back

Both shapes of a numeral are made of the digits that `digitChar` gives, and every reader of digits
folds over them from the left. So one statement about each shape serves all bases and all readers:
`foldlM_fixed` for numerals of a fixed width, `foldlM_numeral` for the shortest ones. A reader is
given by what it makes of one digit.

A hexadecimal digit is one that `digitChar` gives, or its capital, and nothing else
(`hexDigit?_eq_some_iff`). Numerals hold no other characters (`notMem_fixed`, `notMem_numeral`), which
is why a text can be taken apart at the characters between them.
-/

namespace PrefixDelegation.Text

/-! ### One digit -/

theorem hexDigit?_digitChar {d : Nat} (h : d < 16) : hexDigit? (digitChar d) = some d := by
  interval_cases d <;> rfl

theorem decimalDigit?_digitChar {d : Nat} (h : d < 10) : decimalDigit? (digitChar d) = some d := by
  interval_cases d <;> rfl

/-- A character is the digit of a value below sixteen, in small letters or in capitals. -/
def IsHexDigit (c : Char) (n : Nat) : Prop := n < 16 ∧ (c = digitChar n ∨ c = (digitChar n).toUpper)

/-- A character with a number is that character. -/
theorem eq_ofNat_of_toNat {c : Char} {n : Nat} (h : c.toNat = n) : c = Char.ofNat n := by
  rw [← h, Char.ofNat_toNat]

theorem char_le_iff {a b : Char} : a ≤ b ↔ a.toNat ≤ b.toNat := by
  rw [Char.le_def, UInt32.le_iff_toNat_le]
  rfl

/-- The values of hexadecimal digits by their numbers. -/
theorem hexDigit?_cases {c : Char} {n : Nat} (h : hexDigit? c = some n) :
    (c.toNat = 48 + n ∧ n < 10) ∨ (c.toNat = 87 + n ∧ 10 ≤ n ∧ n < 16) ∨
      (c.toNat = 55 + n ∧ 10 ≤ n ∧ n < 16) := by
  simp only [hexDigit?, char_le_iff] at h
  have h0 : '0'.toNat = 48 ∧ '9'.toNat = 57 ∧ 'a'.toNat = 97 ∧ 'f'.toNat = 102 ∧ 'A'.toNat = 65 ∧
      'F'.toNat = 70 := by decide
  split at h
  · have := Option.some.inj h
    omega
  · split at h
    · have := Option.some.inj h
      omega
    · split at h
      · have := Option.some.inj h
        omega
      · cases h

/-- **The hexadecimal digits** are those that are written, and their capitals. -/
theorem hexDigit?_eq_some_iff {c : Char} {n : Nat} : hexDigit? c = some n ↔ IsHexDigit c n := by
  constructor
  · intro h
    rcases hexDigit?_cases h with ⟨hc, hn⟩ | ⟨hc, hge, hn⟩ | ⟨hc, hge, hn⟩
    · refine ⟨by omega, .inl ?_⟩
      rw [eq_ofNat_of_toNat hc, digitChar, if_pos hn]
    · refine ⟨hn, .inl ?_⟩
      rw [eq_ofNat_of_toNat hc, digitChar, if_neg (by omega)]
    · refine ⟨hn, .inr ?_⟩
      rw [eq_ofNat_of_toNat hc]
      interval_cases n <;> rfl
  · rintro ⟨hn, rfl | rfl⟩
    · exact hexDigit?_digitChar hn
    · interval_cases n <;> rfl

/-! ### Numerals of a fixed width -/

theorem length_fixed (base width n : Nat) : (fixed base width n).length = width := by
  induction width generalizing n with
  | zero => rfl
  | succ width ih => rw [fixed, List.length_append, ih, List.length_singleton]

theorem mem_fixed {base width n : Nat} {c : Char} (hbase : 0 < base) (h : c ∈ fixed base width n) :
    ∃ d < base, c = digitChar d := by
  induction width generalizing n with
  | zero => cases h
  | succ width ih =>
    rcases List.mem_append.mp h with hinit | hlast
    · exact ih hinit
    · exact ⟨n % base, Nat.mod_lt n hbase, List.mem_singleton.mp hlast⟩

/-! ### The shortest numerals -/

theorem numeral_of_lt {base n : Nat} (h : n < base) : numeral base n = [digitChar n] := by
  rw [numeral, dif_pos (.inl h)]

theorem numeral_of_le {base n : Nat} (hbase : 2 ≤ base) (h : base ≤ n) :
    numeral base n = numeral base (n / base) ++ [digitChar (n % base)] := by
  rw [numeral, dif_neg (by omega)]

/-- What holds of the numerals of one digit, and passes from a numeral to the one with a digit more,
holds of all. -/
theorem numeral_induction {base : Nat} (hbase : 2 ≤ base) {P : Nat → Prop}
    (digit : ∀ n, n < base → P n) (more : ∀ n, base ≤ n → P (n / base) → P n) (n : Nat) : P n := by
  induction n using Nat.strongRecOn with
  | _ n ih =>
    by_cases h : n < base
    · exact digit n h
    · have hpos : 0 < n := by omega
      exact more n (by omega) (ih (n / base) (Nat.div_lt_self hpos hbase))

theorem numeral_ne_nil {base : Nat} (hbase : 2 ≤ base) (n : Nat) : numeral base n ≠ [] := by
  by_cases h : n < base
  · rw [numeral_of_lt h]
    exact List.cons_ne_nil _ _
  · rw [numeral_of_le hbase (by omega)]
    exact List.append_ne_nil_of_right_ne_nil _ (List.cons_ne_nil _ _)

theorem mem_numeral {base n : Nat} {c : Char} (hbase : 2 ≤ base) (h : c ∈ numeral base n) :
    ∃ d < base, c = digitChar d := by
  induction n using numeral_induction hbase with
  | digit n hn =>
    rw [numeral_of_lt hn] at h
    exact ⟨n, hn, List.mem_singleton.mp h⟩
  | more n hn ih =>
    rw [numeral_of_le hbase hn] at h
    rcases List.mem_append.mp h with hinit | hlast
    · exact ih hinit
    · exact ⟨n % base, Nat.mod_lt n (by omega), List.mem_singleton.mp hlast⟩

/-- A number below a power of the base has no more digits than that. -/
theorem length_numeral_le {base width n : Nat} (hbase : 2 ≤ base) (hwidth : 0 < width)
    (h : n < base ^ width) : (numeral base n).length ≤ width := by
  induction width generalizing n with
  | zero => cases hwidth
  | succ width ih =>
    by_cases hn : n < base
    · rw [numeral_of_lt hn]
      exact Nat.succ_le_succ (Nat.zero_le width)
    · have hquotient : n / base < base ^ width := Nat.div_lt_of_lt_mul (by rwa [← Nat.pow_succ'])
      have hwidth' : 0 < width := by
        rcases width with _ | width
        · rw [Nat.zero_add, Nat.pow_one] at h
          exact absurd h hn
        · exact Nat.succ_pos width
      rw [numeral_of_le hbase (by omega), List.length_append, List.length_singleton]
      exact Nat.succ_le_succ (ih hwidth' hquotient)

/-- A numeral of more than one digit does not start with a zero. -/
theorem head?_numeral_ne {base : Nat} (hbase : 2 ≤ base) (hle : base ≤ 16) (n : Nat) (h : base ≤ n) :
    (numeral base n).head? ≠ some '0' := by
  have hdigit : ∀ d, 0 < d → d < base → digitChar d ≠ '0' := by
    intro d hpos hlt
    have : d < 16 := by omega
    interval_cases d <;> decide
  -- the quotients get below the base, and all that is known of them is that they are not zero
  have hpos : 0 < n := by omega
  clear h
  induction n using numeral_induction hbase with
  | digit n hn =>
    rw [numeral_of_lt hn]
    exact fun heq => hdigit n hpos hn (Option.some.inj heq)
  | more n hn ih =>
    obtain ⟨c, rest, hrest⟩ := List.exists_cons_of_ne_nil (numeral_ne_nil hbase (n / base))
    have hfirst := ih (Nat.div_pos hn (by omega))
    rw [hrest] at hfirst
    rw [numeral_of_le hbase hn, hrest]
    exact hfirst

/-! ### Reading them -/

section Read

variable {base : Nat} {digit? : Char → Option Nat}

/-- **A numeral of a fixed width is read as its number**, behind what was read before. -/
theorem foldlM_fixed (hdigit : ∀ d < base, digit? (digitChar d) = some d) (before : Nat)
    {width n : Nat} (h : n < base ^ width) :
    (fixed base width n).foldlM (fun m c => (digit? c).map (base * m + ·)) before
      = some (before * base ^ width + n) := by
  induction width generalizing n with
  | zero =>
    obtain rfl : n = 0 := by simpa using h
    simp [fixed]
  | succ width ih =>
    have hbase : 0 < base := by
      rcases Nat.eq_zero_or_pos base with rfl | hpos
      · simp at h
      · exact hpos
    have hquotient : n / base < base ^ width := Nat.div_lt_of_lt_mul (by rwa [← Nat.pow_succ'])
    -- the digits of the quotient come first, and the last digit is the remainder
    rw [fixed, List.foldlM_append, ih hquotient]
    simp only [Option.bind_eq_bind, Option.bind_some, List.foldlM_cons, List.foldlM_nil,
      hdigit _ (Nat.mod_lt n hbase), Option.map_some, Option.pure_def]
    congr 1
    calc base * (before * base ^ width + n / base) + n % base
        = before * (base ^ width * base) + (base * (n / base) + n % base) := by ring
      _ = before * base ^ (width + 1) + n := by rw [Nat.div_add_mod, Nat.pow_succ]

/-- **The shortest numeral is read as its number.** -/
theorem foldlM_numeral (hbase : 2 ≤ base) (hdigit : ∀ d < base, digit? (digitChar d) = some d)
    (n : Nat) : (numeral base n).foldlM (fun m c => (digit? c).map (base * m + ·)) 0 = some n := by
  induction n using numeral_induction hbase with
  | digit n hn =>
    simp [numeral_of_lt hn, hdigit n hn]
  | more n hn ih =>
    rw [numeral_of_le hbase hn, List.foldlM_append, ih]
    simp only [Option.bind_eq_bind, Option.bind_some, List.foldlM_cons, List.foldlM_nil,
      hdigit _ (Nat.mod_lt n (by omega)), Option.map_some, Option.pure_def, Nat.div_add_mod]

end Read

theorem decimalValue?_fixed {width n : Nat} (h : n < 10 ^ width) :
    decimalValue? (fixed 10 width n) = some n := by
  rw [decimalValue?, foldlM_fixed (fun _ => decimalDigit?_digitChar) 0 h, Nat.zero_mul, Nat.zero_add]

theorem decimalValue?_decimal (n : Nat) : decimalValue? (decimal n) = some n :=
  foldlM_numeral (by decide) (fun _ => decimalDigit?_digitChar) n

/-! ### What is not in a numeral -/

theorem notMem_fixed {base width n : Nat} {c : Char} (hbase : 0 < base) (hle : base ≤ 16)
    (h : hexDigit? c = none) : c ∉ fixed base width n := by
  intro hmem
  obtain ⟨d, hd, rfl⟩ := mem_fixed hbase hmem
  rw [hexDigit?_digitChar (by omega)] at h
  cases h

theorem notMem_numeral {base n : Nat} {c : Char} (hbase : 2 ≤ base) (hle : base ≤ 16)
    (h : hexDigit? c = none) : c ∉ numeral base n := by
  intro hmem
  obtain ⟨d, hd, rfl⟩ := mem_numeral hbase hmem
  rw [hexDigit?_digitChar (by omega)] at h
  cases h

end PrefixDelegation.Text
