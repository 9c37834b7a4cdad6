import Mathlib.Data.List.TakeWhile
import Mathlib.Tactic.Common
import PrefixDelegation.Address.Ipv6
import PrefixDelegation.Proofs.Text.Digits
import PrefixDelegation.Proofs.Text.Pieces

/-!
# Addresses are read back

The canonical text of an address is read as that address: `readIpv4?_writeIpv4` for 32 bits,
`readIpv6?_writeIpv6Chars` for 128.

The canonical text of an IPv6 address has three shapes: all eight groups, the groups around a gap, or
a gap at the start and an IPv4 address at the end. The reader looks for the first gap, which is the
one that was written since pieces are never empty (`splitGap_join`), and takes what stands on its two
sides apart into groups (`readPieces?_append`). What the gap stands for is a run of zeros, wherever the
search for the longest run has stopped (`longestZeroRun_spec`); for reading it does not matter which
run it is.
-/

namespace PrefixDelegation.Address

open Text

/-! ### IPv4 -/

/-- **A number below 256 is read back.** -/
theorem readByte?_decimal {n : Nat} (h : n < 256) : readByte? (decimal n) = some n := by
  have hne : (decimal n).isEmpty = false := by
    rw [List.isEmpty_eq_false_iff]
    exact numeral_ne_nil (by decide) n
  have hlen : (decimal n).length ≤ 3 :=
    length_numeral_le (by decide) (by decide) (Nat.lt_trans h (by decide))
  -- a zero in front is refused, unless it is the only digit
  have hzero : ((decimal n).length > 1 && (decimal n).head? == some '0') = false := by
    by_cases hdigit : n < 10
    · have hone : decimal n = [digitChar n] := numeral_of_lt hdigit
      simp [hone]
    · have hfirst : (decimal n).head? ≠ some '0' :=
        head?_numeral_ne (by decide) (by decide) n (by omega)
      simp [hfirst]
  unfold readByte?
  rw [hne, hzero, decimalValue?_decimal]
  simp [hlen, h]

/-- The point is no digit. -/
theorem point_notMem_decimal (n : Nat) : '.' ∉ decimal n :=
  notMem_numeral (by decide) (by decide) rfl

/-- **An address of 32 bits is read back.** -/
theorem readIpv4?_writeIpv4 {n : Nat} (h : n < 2 ^ 32) : readIpv4? (writeIpv4 n) = some n := by
  have hbyte : ∀ m, m % 256 < 256 := fun m => Nat.mod_lt m (by decide)
  have hsplit : splitAt '.' (writeIpv4 n) = [decimal (n / 0x1000000 % 256),
      decimal (n / 0x10000 % 256), decimal (n / 0x100 % 256), decimal (n % 256)] := by
    refine splitAt_join (List.cons_ne_nil _ _) fun piece hpiece => ?_
    simp only [List.mem_cons, List.not_mem_nil, or_false] at hpiece
    rcases hpiece with rfl | rfl | rfl | rfl <;> exact point_notMem_decimal _
  unfold readIpv4?
  rw [hsplit]
  simp only [List.length_cons, List.length_nil, ne_eq, not_true, if_false, List.mapM_cons,
    List.mapM_nil, readByte?_decimal (hbyte _), Option.bind_eq_bind, Option.bind_some,
    Option.pure_def, List.foldl_cons, List.foldl_nil, Option.some.injEq]
  omega

theorem foldlM_eq_none {α β : Type} {f : β → α → Option β} {s : List α} {c : α} (h : c ∈ s)
    (hc : ∀ b, f b c = none) (b : β) : s.foldlM f b = none := by
  induction s generalizing b with
  | nil => cases h
  | cons d rest ih =>
    rw [List.foldlM_cons]
    rcases List.mem_cons.mp h with rfl | hrest
    · rw [hc]
      rfl
    · rcases f b d with _ | b'
      · rfl
      · exact ih hrest b'

theorem mapM_eq_none {α β : Type} {f : α → Option β} {s : List α} {c : α} (h : c ∈ s)
    (hc : f c = none) : s.mapM f = none := by
  induction s with
  | nil => cases h
  | cons d rest ih =>
    rw [List.mapM_cons]
    rcases List.mem_cons.mp h with rfl | hrest
    · rw [hc]
      rfl
    · rw [ih hrest]
      cases f d <;> rfl

/-- No text with a colon is an IPv4 address. -/
theorem readIpv4?_eq_none {s : List Char} (h : ':' ∈ s) : readIpv4? s = none := by
  obtain ⟨piece, hpiece, hmem⟩ := exists_mem_splitAt (by decide : ':' ≠ '.') h
  have hbyte : readByte? piece = none := by
    have hvalue : decimalValue? piece = none := foldlM_eq_none hmem (fun _ => rfl) 0
    unfold readByte?
    rw [hvalue]
    split <;> rfl
  unfold readIpv4?
  dsimp only
  split
  · rfl
  · rw [mapM_eq_none hpiece hbyte]
    rfl

/-! ### Groups -/

theorem groups_eq (address : Nat) : groups address =
    [address / 65536 ^ 7 % 65536, address / 65536 ^ 6 % 65536, address / 65536 ^ 5 % 65536,
      address / 65536 ^ 4 % 65536, address / 65536 ^ 3 % 65536, address / 65536 ^ 2 % 65536,
      address / 65536 % 65536, address % 65536] := by
  simp [groups, List.range, List.range.loop]

theorem length_groups (address : Nat) : (groups address).length = 8 := by
  simp [groups]

theorem lt_of_mem_groups {address g : Nat} (h : g ∈ groups address) : g < 65536 := by
  obtain ⟨i, -, rfl⟩ := List.mem_map.mp h
  exact Nat.mod_lt _ (by decide)

/-- **An address is made up of its groups.** -/
theorem ofGroups_groups {address : Nat} (h : address < 2 ^ 128) :
    ofGroups (groups address) = address := by
  have hdiv : ∀ k, address / 65536 ^ (k + 1) = address / 65536 ^ k / 65536 := by
    intro k
    rw [Nat.div_div_eq_div_mul, Nat.pow_succ]
  have hover : address / 65536 ^ 7 < 65536 := Nat.div_lt_of_lt_mul h
  have hone : address / 65536 ^ 1 = address / 65536 := by rw [Nat.pow_one]
  rw [groups_eq, ofGroups]
  simp only [List.foldl_cons, List.foldl_nil]
  rw [Nat.mod_eq_of_lt hover]
  -- from the front, each group goes behind the quotient that the groups before it make up
  have hstep : ∀ k, 65536 * (address / 65536 ^ (k + 1)) + address / 65536 ^ k % 65536
      = address / 65536 ^ k := by
    intro k
    rw [hdiv k]
    exact Nat.div_add_mod _ _
  have hlast : 65536 * (address / 65536) + address % 65536 = address := Nat.div_add_mod _ _
  have hsix := hstep 6
  have hfive := hstep 5
  have hfour := hstep 4
  have hthree := hstep 3
  have htwo := hstep 2
  have hone' := hstep 1
  rw [hone] at hone'
  rw [Nat.mul_zero, Nat.zero_add, hsix, hfive, hfour, hthree, htwo, hone', hlast]

/-- The last two groups are the last 32 bits. -/
theorem last_groups (address : Nat) : (groups address).drop 6 =
    [address % 0x100000000 / 65536, address % 0x100000000 % 65536] := by
  rw [groups_eq]
  simp only [List.drop_succ_cons, List.drop_zero, List.cons.injEq, and_true]
  constructor <;> omega

/-! ### One piece -/

theorem hexValue?_numeral (n : Nat) : hexValue? (numeral 16 n) = some n :=
  foldlM_numeral (by decide) (fun _ => hexDigit?_digitChar) n

/-- **A group is read back.** -/
theorem readGroup?_numeral {g : Nat} (h : g < 65536) : readGroup? (numeral 16 g) = some g := by
  have hne : (numeral 16 g).isEmpty = false := by
    rw [List.isEmpty_eq_false_iff]
    exact numeral_ne_nil (by decide) g
  have hlen : ¬ (numeral 16 g).length > 4 :=
    Nat.not_lt.mpr (length_numeral_le (by decide) (by decide) h)
  unfold readGroup?
  rw [hne, hexValue?_numeral]
  simp [hlen]

/-- A piece of an address: not empty, and without a colon. -/
def IsPiece (s : List Char) : Prop := s ≠ [] ∧ ':' ∉ s

theorem isPiece_numeral (g : Nat) : IsPiece (numeral 16 g) :=
  ⟨numeral_ne_nil (by decide) g, notMem_numeral (by decide) (by decide) rfl⟩

/-- **The pieces of a text are read one by one**; the last may stand for two groups. -/
theorem readPieces?_append {mayEnd : Bool} {gs tail : List Nat} {piece : List Char}
    (h : ∀ g ∈ gs, g < 65536) (hlast : readPieces? mayEnd [piece] = some tail) :
    readPieces? mayEnd (gs.map (numeral 16) ++ [piece]) = some (gs ++ tail) := by
  induction gs with
  | nil => exact hlast
  | cons g gs ih =>
    obtain ⟨next, more, hmore⟩ := List.exists_cons_of_ne_nil
      (List.append_ne_nil_of_right_ne_nil (gs.map (numeral 16)) (List.cons_ne_nil piece []))
    have hrest := ih fun g hg => h g (List.mem_cons_of_mem _ hg)
    rw [hmore] at hrest
    rw [List.map_cons, List.cons_append, hmore, readPieces?,
      readGroup?_numeral (h g List.mem_cons_self), hrest]
    · rfl
    · exact fun heq => List.cons_ne_nil next more heq

/-- A group at the end is read like any other. -/
theorem readPieces?_numeral (mayEnd : Bool) {g : Nat} (h : g < 65536) :
    readPieces? mayEnd [numeral 16 g] = some [g] := by
  have hpoint : '.' ∉ numeral 16 g := notMem_numeral (by decide) (by decide) rfl
  rw [readPieces?, if_neg (by simp [hpoint]), readGroup?_numeral h]
  rfl

theorem join_ne_nil {separator piece : List Char} {pieces : List (List Char)} (hne : piece ≠ [])
    : join separator (piece :: pieces) ≠ [] := by
  by_cases hlast : pieces = []
  · rw [hlast]
    exact hne
  · rw [join_cons hlast, List.append_assoc]
    exact List.append_ne_nil_of_left_ne_nil hne _

/-- **Groups are read back**, with a last piece that may stand for two of them. -/
theorem readGroups?_join {mayEnd : Bool} {gs tail : List Nat} {piece : List Char}
    (h : ∀ g ∈ gs, g < 65536) (hpiece : IsPiece piece)
    (hlast : readPieces? mayEnd [piece] = some tail) :
    readGroups? mayEnd (join [':'] (gs.map (numeral 16) ++ [piece])) = some (gs ++ tail) := by
  have hpieces : ∀ p ∈ gs.map (numeral 16) ++ [piece], IsPiece p := by
    intro p hp
    rcases List.mem_append.mp hp with hfront | hend
    · obtain ⟨g, -, rfl⟩ := List.mem_map.mp hfront
      exact isPiece_numeral g
    · rwa [List.mem_singleton.mp hend]
  have hne : gs.map (numeral 16) ++ [piece] ≠ [] :=
    List.append_ne_nil_of_right_ne_nil _ (List.cons_ne_nil _ _)
  have htext : (join [':'] (gs.map (numeral 16) ++ [piece])).isEmpty = false := by
    obtain ⟨first, more, hmore⟩ := List.exists_cons_of_ne_nil hne
    rw [hmore] at hpieces
    rw [hmore, List.isEmpty_eq_false_iff]
    exact join_ne_nil (hpieces first List.mem_cons_self).1
  unfold readGroups?
  rw [htext, if_neg Bool.false_ne_true, splitAt_join hne fun p hp => (hpieces p hp).2]
  exact readPieces?_append h hlast

theorem readGroups?_writeGroups (mayEnd : Bool) {gs : List Nat} (h : ∀ g ∈ gs, g < 65536) :
    readGroups? mayEnd (writeGroups gs) = some gs := by
  rcases List.eq_nil_or_concat gs with rfl | ⟨front, last, rfl⟩
  · rfl
  · rw [List.concat_eq_append] at h ⊢
    unfold writeGroups
    rw [List.map_append]
    exact readGroups?_join (fun g hg => h g (List.mem_append_left _ hg)) (isPiece_numeral last)
      (readPieces?_numeral mayEnd (h last (by simp)))

/-! ### The gap -/

/-- What is not the start of a gap is passed. -/
theorem splitGap_cons {c : Char} {rest : List Char} (h : c = ':' → rest.head? ≠ some ':') :
    splitGap (c :: rest) = (splitGap rest).map fun parts => (c :: parts.1, parts.2) := by
  rw [splitGap]
  · intro rest' hc hrest
    exact h hc (by rw [hrest]; rfl)

/-- A piece is passed. -/
theorem splitGap_piece {piece : List Char} (h : ':' ∉ piece) (rest : List Char) :
    splitGap (piece ++ rest) = (splitGap rest).map fun parts => (piece ++ parts.1, parts.2) := by
  induction piece with
  | nil => exact Option.map_id'.symm
  | cons c piece ih =>
    have hc : c ≠ ':' := (List.ne_of_not_mem_cons h).symm
    rw [List.cons_append, splitGap_cons fun heq => absurd heq hc,
      ih (List.not_mem_of_not_mem_cons h), Option.map_map]
    rfl

/-- **The first gap stands behind the pieces**, since none of them is empty. -/
theorem splitGap_join {pieces : List (List Char)} (h : ∀ p ∈ pieces, IsPiece p)
    (rest : List Char) : splitGap (join [':'] pieces ++ rest)
      = (splitGap rest).map fun parts => (join [':'] pieces ++ parts.1, parts.2) := by
  induction pieces with
  | nil => exact Option.map_id'.symm
  | cons piece pieces ih =>
    obtain ⟨-, hcolon⟩ := h piece List.mem_cons_self
    have hrest := ih fun p hp => h p (List.mem_cons_of_mem _ hp)
    rcases pieces with _ | ⟨next, pieces⟩
    · exact splitGap_piece hcolon rest
    · obtain ⟨hne, hnext⟩ := h next (by simp)
      -- a colon between two pieces is followed by the second of them
      have hhead : (join [':'] (next :: pieces) ++ rest).head? ≠ some ':' := by
        obtain ⟨c, next, rfl⟩ := List.exists_cons_of_ne_nil hne
        have hc : c ≠ ':' := (List.ne_of_not_mem_cons hnext).symm
        have hfirst : (join [':'] ((c :: next) :: pieces) ++ rest).head? = some c := by
          cases pieces <;> rfl
        rw [hfirst]
        exact fun heq => hc (Option.some.inj heq)
      rw [join_cons (List.cons_ne_nil _ _), List.append_assoc, List.append_assoc,
        List.singleton_append, splitGap_piece hcolon, splitGap_cons fun _ => hhead, hrest,
        Option.map_map, Option.map_map]
      simp [Function.comp_def]

theorem isPiece_of_mem_map (gs : List Nat) : ∀ p ∈ gs.map (numeral 16), IsPiece p := by
  intro p h
  obtain ⟨g, -, rfl⟩ := List.mem_map.mp h
  exact isPiece_numeral g

/-- Groups hold no gap. -/
theorem splitGap_writeGroups (gs : List Nat) : splitGap (writeGroups gs) = none := by
  have h := splitGap_join (isPiece_of_mem_map gs) []
  rwa [List.append_nil] at h

/-- A gap behind groups is found. -/
theorem splitGap_gap (gs : List Nat) (rest : List Char) :
    splitGap (writeGroups gs ++ ':' :: ':' :: rest) = some (writeGroups gs, rest) := by
  have h := splitGap_join (isPiece_of_mem_map gs) (':' :: ':' :: rest)
  rw [splitGap, Option.map_some, List.append_nil] at h
  exact h

/-! ### The longest run of zeros -/

/-- The groups of a run are zero. -/
theorem take_zeroRun (gs : List Nat) : gs.take (zeroRun gs) = List.replicate (zeroRun gs) 0 := by
  unfold zeroRun
  rw [← List.prefix_iff_eq_take.mp (List.takeWhile_prefix _)]
  refine List.eq_replicate_iff.mpr ⟨rfl, fun g hg => ?_⟩
  have hzero : (g == 0) = true := List.mem_takeWhile_imp (p := fun g => g == 0) hg
  exact beq_iff_eq.mp hzero

/-- **The search for the longest run** stops at a run. -/
theorem longestZeroRun_spec (gs : List Nat) : (longestZeroRun gs).2 = 0 ∨
    zeroRun (gs.drop (longestZeroRun gs).1) = (longestZeroRun gs).2 := by
  refine List.foldlRecOn (motive := fun best : Nat × Nat => best.2 = 0 ∨ zeroRun (gs.drop best.1) = best.2)
    (List.range gs.length) _ (.inl rfl) ?_
  intro best h i _
  split
  · exact .inr rfl
  · exact h

/-- Where the search stops, the groups are zero. -/
theorem eq_take_append_drop {gs : List Nat} {start length : Nat}
    (h : longestZeroRun gs = (start, length)) :
    gs = gs.take start ++ List.replicate length 0 ++ gs.drop (start + length) := by
  have hspec := longestZeroRun_spec gs
  rw [h] at hspec
  have hzeros : (gs.drop start).take length = List.replicate length 0 := by
    rcases hspec with hnone | hrun
    · obtain rfl : length = 0 := hnone
      rfl
    · obtain rfl : zeroRun (gs.drop start) = length := hrun
      exact take_zeroRun _
  calc gs = gs.take start ++ gs.drop start := (List.take_append_drop start gs).symm
    _ = gs.take start ++ ((gs.drop start).take length ++ (gs.drop start).drop length) :=
      congrArg _ (List.take_append_drop length _).symm
    _ = gs.take start ++ List.replicate length 0 ++ gs.drop (start + length) := by
      rw [hzeros, List.drop_drop, List.append_assoc]

/-! ### IPv6 -/

/-- Eight groups without a gap are read back. -/
theorem readIpv6?_writeGroups {gs : List Nat} (hlen : gs.length = 8) (h : ∀ g ∈ gs, g < 65536) :
    readIpv6? (writeGroups gs) = some (ofGroups gs) := by
  unfold readIpv6?
  rw [splitGap_writeGroups]
  simp [readGroups?_writeGroups true h, hlen]

/-- Groups around a gap are read back, with the zeros that the gap stands for. -/
theorem readIpv6?_gap {left right : List Nat} {after : List Char} {length : Nat}
    (h : ∀ g ∈ left, g < 65536) (hright : readGroups? true after = some right)
    (hcount : left.length + length + right.length = 8) (hlength : 0 < length) :
    readIpv6? (writeGroups left ++ ':' :: ':' :: after)
      = some (ofGroups (left ++ List.replicate length 0 ++ right)) := by
  -- the reader fills up to eight groups, which is what the run left out
  have hzeros : 8 - (left.length + right.length) = length := by omega
  unfold readIpv6?
  rw [splitGap_gap]
  simp only [readGroups?_writeGroups false h, hright, Option.bind_eq_bind, Option.bind_some, hzeros]
  rw [if_pos (by omega)]
  rfl

/-- An IPv4 address at the end is read as the last two groups. -/
theorem readPieces?_writeIpv4 {n : Nat} (h : n < 2 ^ 32) :
    readPieces? true [writeIpv4 n] = some [n / 65536, n % 65536] := by
  have hpoint : '.' ∈ writeIpv4 n := by simp [writeIpv4, join]
  rw [readPieces?, if_pos (by simpa using hpoint), readIpv4?_writeIpv4 h]
  rfl

theorem isPiece_writeIpv4 (n : Nat) : IsPiece (writeIpv4 n) := by
  refine ⟨join_ne_nil (numeral_ne_nil (by decide) _), fun hmem => ?_⟩
  rcases mem_join hmem with hpoint | ⟨piece, hpiece, hcolon⟩
  · exact absurd hpoint (by decide)
  · simp only [List.mem_cons, List.not_mem_nil, or_false] at hpiece
    have hdigits : ∀ m, ':' ∉ decimal m := fun m => notMem_numeral (by decide) (by decide) rfl
    rcases hpiece with rfl | rfl | rfl | rfl <;> exact hdigits _ hcolon

/-- Groups up to an IPv4 address at the end are read back. -/
theorem readGroups?_ipv4 {gs : List Nat} {length low : Nat} (h : ∀ g ∈ gs, g < 65536)
    (hlow : gs.drop 6 = [low / 65536, low % 65536]) (hlt : low < 2 ^ 32) (hlength : length ≤ 6) :
    readGroups? true (join [':'] (((gs.drop length).take (6 - length)).map (numeral 16)
      ++ [writeIpv4 low])) = some (gs.drop length) := by
  have hfront : ∀ g ∈ (gs.drop length).take (6 - length), g < 65536 :=
    fun g hg => h g (List.mem_of_mem_drop (List.mem_of_mem_take hg))
  have hgroups : (gs.drop length).take (6 - length) ++ [low / 65536, low % 65536]
      = gs.drop length := by
    calc _ = (gs.drop length).take (6 - length) ++ (gs.drop length).drop (6 - length) := by
          rw [List.drop_drop, Nat.add_sub_cancel' hlength, hlow]
      _ = gs.drop length := List.take_append_drop _ _
  rw [readGroups?_join hfront (isPiece_writeIpv4 low) (readPieces?_writeIpv4 hlt), hgroups]

/-- **An address of 128 bits is read back.** -/
theorem readIpv6?_writeIpv6Chars {address : Nat} (h : address < 2 ^ 128) :
    readIpv6? (writeIpv6Chars address) = some address := by
  have hlen := length_groups address
  have hlt : ∀ g ∈ groups address, g < 65536 := fun _ => lt_of_mem_groups
  have hvalue := ofGroups_groups h
  have hlow := last_groups address
  unfold writeIpv6Chars
  -- from here on only the groups count
  generalize groups address = gs at hlen hlt hvalue hlow
  rcases hrun : longestZeroRun gs with ⟨start, length⟩
  have hsplit := eq_take_append_drop hrun
  have hcount := congrArg List.length hsplit
  rw [List.length_append, List.length_append, List.length_replicate, hlen] at hcount
  simp only [hrun]
  split
  · -- no gap
    rw [readIpv6?_writeGroups hlen hlt, hvalue]
  next hlong =>
  have hpos : 0 < length := by omega
  split
  · -- a gap at the start and an IPv4 address at the end
    next hipv4 =>
    simp only [endsInIpv4, Bool.and_eq_true, Bool.or_eq_true, beq_iff_eq] at hipv4
    obtain ⟨rfl, hsix⟩ := hipv4
    rw [List.take_zero, Nat.zero_add] at hsplit hcount
    have hread := readGroups?_ipv4 hlt hlow (Nat.mod_lt _ (by decide))
      (show length ≤ 6 by omega)
    have hnone : ∀ g ∈ ([] : List Nat), g < 65536 := fun _ hg => absurd hg List.not_mem_nil
    have hgap := readIpv6?_gap hnone hread hcount.symm hpos
    rw [← hsplit, hvalue] at hgap
    exact hgap
  · -- a gap between groups
    have hleft : ∀ g ∈ gs.take start, g < 65536 := fun g hg => hlt g (List.mem_of_mem_take hg)
    have hright : ∀ g ∈ gs.drop (start + length), g < 65536 :=
      fun g hg => hlt g (List.mem_of_mem_drop hg)
    rw [readIpv6?_gap hleft (readGroups?_writeGroups true hright) hcount.symm hpos, ← hsplit, hvalue]

end PrefixDelegation.Address
