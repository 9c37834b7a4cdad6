import Mathlib.Data.List.TakeDrop
import PrefixDelegation.Address.Network
import PrefixDelegation.Proofs.Address.AddressText

/-!
# Networks are read back

The text of an IPv6 network is read as that network, host bits included (`Network.read_write`). The
reader tries the other family first and fails there, since every IPv6 address is written with a colon
(`colon_mem_writeIpv6Chars`) and no IPv4 address has one. It splits the text at the slash that was
written, since an address is written with hexadecimal digits, colons and points only
(`mem_writeIpv6Chars`), and the length behind it is read as a whole number (`readInt?_decimal`).
-/

namespace PrefixDelegation

open Text

/-! ### Whole numbers -/

namespace Decimal

theorem digitOfAnyScript?_digitChar {d : Nat} (h : d < 10) :
    digitOfAnyScript? (digitChar d) = some d := by
  interval_cases d <;> rfl

/-- What a digit of the ASCII range is not. -/
theorem digitChar_plain {d : Nat} (h : d < 10) : surroundsNumber (digitChar d) = false ∧
    digitChar d ≠ '_' ∧ digitChar d ≠ '-' ∧ digitChar d ≠ '+' := by
  interval_cases d <;> decide

/-- A numeral is a typed number as it stands. -/
theorem normalise_decimal (n : Nat) : normalise (decimal n) = decimal n := by
  have hplain : ∀ c ∈ decimal n, surroundsNumber c = false := by
    intro c hc
    obtain ⟨d, hd, rfl⟩ := mem_numeral (by decide) hc
    exact (digitChar_plain hd).1
  have hdrop : ∀ s : List Char, (∀ c ∈ s, surroundsNumber c = false) →
      s.dropWhile surroundsNumber = s := by
    intro s hs
    cases s with
    | nil => rfl
    | cons c s => exact List.dropWhile_cons_of_neg (by simp [hs c List.mem_cons_self])
  have hdigits : (decimal n).map (fun c => ((digitOfAnyScript? c).map digitChar).getD c)
      = decimal n := by
    refine (List.map_congr_left fun c hc => ?_).trans (List.map_id _)
    obtain ⟨d, hd, rfl⟩ := mem_numeral (by decide) hc
    rw [digitOfAnyScript?_digitChar hd]
    rfl
  unfold normalise
  rw [hdrop _ hplain, hdrop _ fun c hc => hplain c (List.mem_reverse.mp hc), List.reverse_reverse]
  exact hdigits

/-- A text without underscores has none in the wrong place. -/
theorem underscoresFit_of_notMem {before : Char} {s : List Char} (hbefore : before ≠ '_')
    (h : '_' ∉ s) : underscoresFit before s = true := by
  induction s generalizing before with
  | nil => simpa [underscoresFit] using hbefore
  | cons c rest ih =>
    have hc : c ≠ '_' := (List.ne_of_not_mem_cons h).symm
    rw [underscoresFit, ih hc (List.not_mem_of_not_mem_cons h)]
    simp [hbefore, hc]

theorem dropUnderscores?_decimal (n : Nat) : dropUnderscores? (decimal n) = some (decimal n) := by
  have hnone : '_' ∉ decimal n := notMem_numeral (by decide) (by decide) rfl
  unfold dropUnderscores?
  rw [if_pos (underscoresFit_of_notMem (by decide) hnone),
    List.filter_eq_self.mpr fun c hc => ?_]
  simp only [bne_iff_ne, ne_eq]
  rintro rfl
  exact hnone hc

theorem takeSign_decimal (n : Nat) : takeSign (decimal n) = (false, decimal n) := by
  obtain ⟨c, rest, heq⟩ := List.exists_cons_of_ne_nil (numeral_ne_nil (by decide : 2 ≤ 10) n)
  have hc : c ∈ decimal n := by
    unfold decimal
    rw [heq]
    exact List.mem_cons_self
  obtain ⟨d, hd, rfl⟩ := mem_numeral (by decide) hc
  obtain ⟨-, -, hminus, hplus⟩ := digitChar_plain hd
  unfold decimal
  rw [heq, takeSign]
  · exact fun _ h => absurd h (by simp [hminus])
  · exact fun _ h => absurd h (by simp [hplus])

/-- **A whole number is read back**, unless it has too many digits. -/
theorem readInt?_decimal {n : Nat} (h : (decimal n).length ≤ maxDigits) :
    readInt? (decimal n) = some n := by
  have hne : (decimal n).isEmpty = false := by
    rw [List.isEmpty_eq_false_iff]
    exact numeral_ne_nil (by decide) n
  have hdigits : (maxDigits < (decimal n).length) = False := eq_false (Nat.not_lt.mpr h)
  unfold readInt?
  simp only [normalise_decimal, dropUnderscores?_decimal, Option.bind_eq_bind, Option.bind_some,
    takeSign_decimal, hne, hdigits, decimalValue?_decimal]
  rfl

end Decimal

/-! ### What an address is written with -/

namespace Address

/-- The characters of addresses: hexadecimal digits, colons and points. -/
def IsAddressChar (c : Char) : Prop := (∃ d < 16, c = digitChar d) ∨ c = ':' ∨ c = '.'

theorem mem_numeral_address {n : Nat} {c : Char} (h : c ∈ numeral 16 n) : IsAddressChar c :=
  .inl (mem_numeral (by decide) h)

theorem mem_writeGroups {gs : List Nat} {c : Char} (h : c ∈ writeGroups gs) : IsAddressChar c := by
  rcases mem_join h with hcolon | ⟨piece, hpiece, hmem⟩
  · exact .inr (.inl (List.mem_singleton.mp hcolon))
  · obtain ⟨g, -, rfl⟩ := List.mem_map.mp hpiece
    exact mem_numeral_address hmem

theorem mem_writeIpv4 {n : Nat} {c : Char} (h : c ∈ writeIpv4 n) : IsAddressChar c := by
  rcases mem_join h with hpoint | ⟨piece, hpiece, hmem⟩
  · exact .inr (.inr (List.mem_singleton.mp hpoint))
  · have hdigit : ∀ m, c ∈ decimal m → IsAddressChar c := by
      intro m hm
      obtain ⟨d, hd, rfl⟩ := mem_numeral (by decide) hm
      exact .inl ⟨d, Nat.lt_trans hd (by decide), rfl⟩
    simp only [List.mem_cons, List.not_mem_nil, or_false] at hpiece
    rcases hpiece with rfl | rfl | rfl | rfl <;> exact hdigit _ hmem

/-- An IPv6 address is written with the characters of addresses. -/
theorem mem_writeIpv6Chars {address : Nat} {c : Char} (h : c ∈ writeIpv6Chars address) :
    IsAddressChar c := by
  have hcolon : IsAddressChar ':' := .inr (.inl rfl)
  unfold writeIpv6Chars at h
  dsimp only at h
  split at h
  · exact mem_writeGroups h
  split at h
  · rcases List.mem_cons.mp h with rfl | h
    · exact hcolon
    rcases List.mem_cons.mp h with rfl | h
    · exact hcolon
    rcases mem_join h with hseparator | ⟨piece, hpiece, hmem⟩
    · rwa [List.mem_singleton.mp hseparator]
    · rcases List.mem_append.mp hpiece with hgroup | hlast
      · obtain ⟨g, -, rfl⟩ := List.mem_map.mp hgroup
        exact mem_numeral_address hmem
      · rw [List.mem_singleton.mp hlast] at hmem
        exact mem_writeIpv4 hmem
  · simp only [List.mem_append, List.mem_cons] at h
    rcases h with h | rfl | rfl | h
    · exact mem_writeGroups h
    · exact hcolon
    · exact hcolon
    · exact mem_writeGroups h

/-- An IPv6 address is written with a colon. -/
theorem colon_mem_writeIpv6Chars (address : Nat) : ':' ∈ writeIpv6Chars address := by
  unfold writeIpv6Chars
  dsimp only
  split
  · -- eight groups have colons between them
    unfold writeGroups
    rw [groups_eq]
    simp [join]
  split
  · exact List.mem_cons_self
  · simp

theorem notMem_writeIpv6Chars {c : Char} (hc : hexDigit? c = none) (hcolon : c ≠ ':')
    (hpoint : c ≠ '.') (address : Nat) : c ∉ writeIpv6Chars address := by
  intro h
  rcases mem_writeIpv6Chars h with ⟨d, hd, rfl⟩ | rfl | rfl
  · rw [hexDigit?_digitChar hd] at hc
    cases hc
  · exact hcolon rfl
  · exact hpoint rfl

/-! ### Networks -/

namespace Network

theorem splitSlash_append {s : List Char} (h : '/' ∉ s) (rest : List Char) :
    splitSlash (s ++ '/' :: rest) = (s, some rest) := by
  have hall : ∀ c ∈ s, (c != '/') = true := by
    intro c hc
    rw [bne_iff_ne]
    rintro rfl
    exact h hc
  unfold splitSlash
  rw [List.span_eq_takeWhile_dropWhile, List.takeWhile_append_of_pos hall,
    List.dropWhile_append_of_pos hall]
  simp

/-- A text with a colon before the slash is no IPv4 network. -/
theorem readAs_ipv4_writeIpv6Chars (address length : Nat) :
    readAs .ipv4 (writeIpv6Chars address ++ '/' :: decimal length) = .ok none := by
  have hslash : '/' ∉ writeIpv6Chars address :=
    notMem_writeIpv6Chars rfl (by decide) (by decide) address
  have hpart : readPart .ipv4 (writeIpv6Chars address) = .ok none :=
    congrArg Except.ok (readIpv4?_eq_none (colon_mem_writeIpv6Chars address))
  unfold readAs
  rw [splitSlash_append hslash]
  dsimp only
  rw [hpart]
  rfl

/-- An address and a length within the bounds of IPv6 are read back. -/
theorem readAs_ipv6_writeIpv6Chars {address length : Nat} (address_lt : address < Family.ipv6.size)
    (length_le : length ≤ Family.ipv6.width) :
    readAs .ipv6 (writeIpv6Chars address ++ '/' :: decimal length)
      = .ok (some ⟨.ipv6, address, length, address_lt, length_le⟩) := by
  have hslash : '/' ∉ writeIpv6Chars address :=
    notMem_writeIpv6Chars rfl (by decide) (by decide) address
  have hpart : readPart .ipv6 (writeIpv6Chars address) = .ok (some address) := by
    have hnull : '\x00' ∉ writeIpv6Chars address :=
      notMem_writeIpv6Chars rfl (by decide) (by decide) address
    unfold readPart
    rw [if_neg (by simpa using hnull)]
    exact congrArg Except.ok (readIpv6?_writeIpv6Chars address_lt)
  -- three digits are enough for a length
  have hdigits : (decimal length).length ≤ Decimal.maxDigits := by
    have hsmall : length < 10 ^ 3 := Nat.lt_of_le_of_lt length_le (by decide)
    exact Nat.le_trans (length_numeral_le (by decide) (by decide) hsmall) (by decide)
  have hmake : make? .ipv6 address length
      = some ⟨.ipv6, address, length, address_lt, length_le⟩ :=
    dif_pos ⟨address_lt, length_le, Int.natCast_nonneg length⟩
  unfold readAs
  rw [splitSlash_append hslash]
  dsimp only
  rw [hpart, Decimal.readInt?_decimal hdigits]
  exact congrArg Except.ok hmake

/-- **The text of an IPv6 network is read as that network.** -/
theorem read_write {n : Network} (h : n.family = .ipv6) : read n.write = .ok n := by
  obtain ⟨family, address, length, address_lt, length_le⟩ := n
  obtain rfl : family = .ipv6 := h
  have hchars : (write ⟨.ipv6, address, length, address_lt, length_le⟩).toList
      = writeIpv6Chars address ++ '/' :: decimal length := by
    simp [write, writeChars, Family.write]
  unfold read
  dsimp only
  -- the other family is tried first, and finds nothing
  rw [hchars, readAs_ipv4_writeIpv6Chars, readAs_ipv6_writeIpv6Chars address_lt length_le]
  rfl

end Network

end Address

end PrefixDelegation
