import Mathlib.Tactic.Common
import PrefixDelegation.Json.Reader
import PrefixDelegation.Json.Writer
import PrefixDelegation.Proofs.Text.Digits

/-!
# Texts in JSON are read back

Every character has one of three written forms (`IsForm`): itself, a letter behind a backslash, or its
number in one or two units of sixteen bits. The reader takes one step for each character, whatever its
form (`IsForm.readText_eq`), so a text is read back by induction on its characters
(`readText_writeText`). A number in two units is read as one character since the first unit is the
first half of a pair and the second the second half (`readUnit_pair`).
-/

namespace PrefixDelegation.Json

open Text

/-! ### Units -/

/-- What a character cannot be: half of a pair, or beyond the last one. -/
theorem toNat_valid (c : Char) : c.toNat < 0xd800 ∨ (0xdfff < c.toNat ∧ c.toNat < 0x110000) :=
  c.valid

theorem unit?_fixed {n : Nat} (h : n < 0x10000) : unit? (fixed 16 4 n) = some n := by
  have hwidth : n < 16 ^ 4 := h
  have hread := foldlM_fixed (fun _ => hexDigit?_digitChar) 0 hwidth
  rw [Nat.zero_mul, Nat.zero_add] at hread
  exact hread

/-- **A number in one unit is read back.** -/
theorem readUnit_single {c : Char} (h : c.toNat < 0x10000) {tail : List Char} (hne : tail ≠ []) :
    readUnit ('u' :: (fixed 16 4 c.toNat ++ tail)) = .ok (c, tail) := by
  have hlen := length_fixed 16 4 c.toNat
  have hpos := List.length_pos_iff.mpr hne
  have hvalid := toNat_valid c
  have hchar : charOfUnit c.toNat = c := by
    unfold charOfUnit
    rw [if_neg (by omega), Char.ofNat_toNat]
  have hshort : ¬ (fixed 16 4 c.toNat ++ tail).length ≤ 4 := by
    rw [List.length_append, hlen]
    omega
  unfold readUnit
  simp only [List.drop_succ_cons, List.drop_zero, if_neg hshort, List.take_left' hlen,
    List.drop_left' hlen, unit?_fixed h]
  rw [if_neg (by omega), hchar]
  rfl

/-- **A number in two units is read back.** -/
theorem readUnit_pair {c : Char} (h : 0x10000 ≤ c.toNat) {tail : List Char} (hne : tail ≠ []) :
    readUnit ('u' :: (fixed 16 4 (0xd800 + (c.toNat - 0x10000) / 0x400) ++
      (unitEscape (0xdc00 + (c.toNat - 0x10000) % 0x400) ++ tail))) = .ok (c, tail) := by
  have hvalid := toNat_valid c
  have hpos := List.length_pos_iff.mpr hne
  have hquotient : (c.toNat - 0x10000) / 0x400 < 0x400 := Nat.div_lt_of_lt_mul (by omega)
  have hremainder : (c.toNat - 0x10000) % 0x400 < 0x400 := Nat.mod_lt _ (by decide)
  have hwhole : 0x10000 + (c.toNat - 0x10000) / 0x400 * 0x400 + (c.toNat - 0x10000) % 0x400
      = c.toNat := by
    have := Nat.div_add_mod (c.toNat - 0x10000) 0x400
    omega
  -- ten bits in each unit, behind what tells the two halves apart
  generalize (c.toNat - 0x10000) / 0x400 = quotient at *
  generalize (c.toNat - 0x10000) % 0x400 = remainder at *
  have hhigh := length_fixed 16 4 (0xd800 + quotient)
  have hlow := length_fixed 16 4 (0xdc00 + remainder)
  have hshort : ¬ (fixed 16 4 (0xd800 + quotient) ++ (unitEscape (0xdc00 + remainder) ++ tail)).length
      ≤ 4 := by
    rw [List.length_append, hhigh, List.length_append]
    omega
  have hfirst : unit? (fixed 16 4 (0xd800 + quotient)) = some (0xd800 + quotient) :=
    unit?_fixed (by omega)
  have hsecond : unit? (fixed 16 4 (0xdc00 + remainder)) = some (0xdc00 + remainder) :=
    unit?_fixed (by omega)
  have hpair : 0xd800 ≤ 0xd800 + quotient ∧ 0xd800 + quotient < 0xdc00 ∧
      (unitEscape (0xdc00 + remainder) ++ tail).length > 6 := by
    refine ⟨by omega, by omega, ?_⟩
    simp only [unitEscape, List.length_append, List.length_cons, hlow]
    omega
  have hchar : Char.ofNat (0x10000 + (0xd800 + quotient - 0xd800) * 0x400
      + (0xdc00 + remainder - 0xdc00)) = c := by
    rw [Nat.add_sub_cancel_left, Nat.add_sub_cancel_left, hwhole, Char.ofNat_toNat]
  have hrest : unitEscape (0xdc00 + remainder) ++ tail
      = '\\' :: 'u' :: (fixed 16 4 (0xdc00 + remainder) ++ tail) := rfl
  unfold readUnit
  simp only [List.drop_succ_cons, List.drop_zero, if_neg hshort, List.take_left' hhigh,
    List.drop_left' hhigh, hfirst]
  rw [if_pos hpair, hrest]
  simp only [List.take_left' hlow, List.drop_left' hlow, hsecond]
  rw [if_pos (by omega), hchar]
  rfl

/-! ### Characters -/

/-- A letter behind a backslash is read as what it stands for. -/
theorem readText_escaped (start steps : Nat) (before : List Char) {letter c : Char}
    (h : escapedChar? letter = some c) (tail : List Char) :
    readText start (steps + 1) before ('\\' :: letter :: tail)
      = readText start steps (c :: before) tail := by
  have hletter : letter ≠ 'u' := by
    rintro rfl
    cases h
  rw [readText, h]
  exact hletter

/-- A number is read as its character. -/
theorem readText_unit (start steps : Nat) (before : List Char) {rest tail : List Char} {c : Char}
    (h : readUnit ('u' :: rest) = .ok (c, tail)) :
    readText start (steps + 1) before ('\\' :: 'u' :: rest)
      = readText start steps (c :: before) tail := by
  rw [readText]
  simp only [h]
  rfl

/-- Any other character is read as it stands. -/
theorem readText_plain (start steps : Nat) (before : List Char) {c : Char} (hquote : c ≠ '"')
    (hslash : c ≠ '\\') (h : 0x20 ≤ c.toNat) (tail : List Char) :
    readText start (steps + 1) before (c :: tail) = readText start steps (c :: before) tail := by
  rw [readText]
  · rw [if_neg (by omega)]
  · exact hquote
  · exact hslash

/-- **The written forms of a character**: a letter behind a backslash, the character itself, or its
number in one unit or two. -/
inductive IsForm (c : Char) : List Char → Prop
  | escaped {letter : Char} (letter_eq : escapedChar? letter = some c)
      (printable : 0x20 ≤ letter.toNat) : IsForm c ['\\', letter]
  | plain (not_quote : c ≠ '"') (not_slash : c ≠ '\\') (printable : 0x20 ≤ c.toNat) : IsForm c [c]
  | unit (small : c.toNat < 0x10000) : IsForm c (unitEscape c.toNat)
  | pair (large : 0x10000 ≤ c.toNat) :
      IsForm c (unitEscape (0xd800 + (c.toNat - 0x10000) / 0x400) ++
        unitEscape (0xdc00 + (c.toNat - 0x10000) % 0x400))

/-- Every character is written in one of the forms. -/
theorem isForm_writeChar (c : Char) : IsForm c (writeChar c) := by
  unfold writeChar
  split
  · next h =>
    obtain rfl := beq_iff_eq.mp h
    exact .escaped rfl (by decide)
  split
  · next h =>
    obtain rfl := beq_iff_eq.mp h
    exact .escaped rfl (by decide)
  split
  · next h =>
    obtain rfl := beq_iff_eq.mp h
    exact .escaped rfl (by decide)
  split
  · next h =>
    obtain rfl := beq_iff_eq.mp h
    exact .escaped rfl (by decide)
  split
  · next h =>
    obtain rfl := beq_iff_eq.mp h
    exact .escaped rfl (by decide)
  split
  · next h =>
    obtain rfl := eq_ofNat_of_toNat (beq_iff_eq.mp h)
    exact .escaped rfl (by decide)
  split
  · next h =>
    obtain rfl := eq_ofNat_of_toNat (beq_iff_eq.mp h)
    exact .escaped rfl (by decide)
  split
  · next hquote hslash _ _ _ _ _ h =>
    exact .plain (by simpa using hquote) (by simpa using hslash) (char_le_iff.mp h.1)
  split
  · next h => exact .unit h
  · next h => exact .pair (Nat.le_of_not_lt h)

/-- **A character is read back in one step**, if more follows. -/
theorem IsForm.readText_eq {c : Char} {form : List Char} (h : IsForm c form) (start steps : Nat)
    (before : List Char) {tail : List Char} (hne : tail ≠ []) :
    readText start (steps + 1) before (form ++ tail) = readText start steps (c :: before) tail := by
  cases h with
  | escaped letter_eq => exact readText_escaped start steps before letter_eq tail
  | plain not_quote not_slash printable =>
    exact readText_plain start steps before not_quote not_slash printable tail
  | unit small => exact readText_unit start steps before (readUnit_single small hne)
  | pair large =>
    rw [List.append_assoc]
    exact readText_unit start steps before (readUnit_pair large hne)

theorem IsForm.ne_nil {c : Char} {form : List Char} (h : IsForm c form) : form ≠ [] := by
  cases h with
  | escaped => exact List.cons_ne_nil _ _
  | plain => exact List.cons_ne_nil _ _
  | unit => exact List.cons_ne_nil _ _
  | pair => exact List.cons_ne_nil _ _

/-- **A text is read back**, up to its closing quote. -/
theorem readText_writeText (start : Nat) (s before rest : List Char) {steps : Nat}
    (h : s.length < steps) :
    readText start steps before (s.flatMap writeChar ++ '"' :: rest)
      = .ok (String.ofList (before.reverse ++ s), rest) := by
  induction s generalizing before steps with
  | nil =>
    obtain ⟨steps, rfl⟩ := Nat.exists_eq_add_of_lt h
    rw [List.flatMap_nil, List.nil_append, List.append_nil, readText]
    exact Nat.succ_ne_zero _
  | cons c s ih =>
    obtain ⟨steps, rfl⟩ : ∃ more, steps = more + 1 := ⟨steps - 1, by omega⟩
    -- a unit is only read if more follows it, and the closing quote does
    have hne : s.flatMap writeChar ++ '"' :: rest ≠ [] :=
      List.append_ne_nil_of_right_ne_nil _ (List.cons_ne_nil _ _)
    rw [List.flatMap_cons, List.append_assoc, (isForm_writeChar c).readText_eq start steps before hne,
      ih _ (Nat.lt_of_succ_lt_succ h), List.reverse_cons, List.append_assoc]
    rfl

theorem length_le_flatMap_writeChar (s : List Char) : s.length ≤ (s.flatMap writeChar).length := by
  induction s with
  | nil => exact Nat.le_refl _
  | cons c s ih =>
    have hpos := List.length_pos_iff.mpr (isForm_writeChar c).ne_nil
    rw [List.flatMap_cons, List.length_append, List.length_cons]
    omega

/-! ### What texts are written with -/

theorem digitChar_printable {d : Nat} (h : d < 16) : 0x20 ≤ (digitChar d).toNat := by
  interval_cases d <;> decide

theorem printable_of_mem_unitEscape {n : Nat} {d : Char} (h : d ∈ unitEscape n) :
    0x20 ≤ d.toNat := by
  rcases List.mem_cons.mp h with rfl | h
  · decide
  rcases List.mem_cons.mp h with rfl | h
  · decide
  · obtain ⟨digit, hdigit, rfl⟩ := mem_fixed (by decide) h
    exact digitChar_printable hdigit

/-- What is written for a character is printable. -/
theorem IsForm.printable {c d : Char} {form : List Char} (h : IsForm c form) (hd : d ∈ form) :
    0x20 ≤ d.toNat := by
  cases h with
  | escaped _ printable =>
    rcases List.mem_cons.mp hd with rfl | hd
    · decide
    · rwa [List.mem_singleton.mp hd]
  | plain _ _ printable => rwa [List.mem_singleton.mp hd]
  | unit => exact printable_of_mem_unitEscape hd
  | pair =>
    rcases List.mem_append.mp hd with hd | hd
    · exact printable_of_mem_unitEscape hd
    · exact printable_of_mem_unitEscape hd

end PrefixDelegation.Json
