import Mathlib.Data.List.Basic
import Mathlib.Data.List.Induction
import Mathlib.Data.List.TakeWhile
import Mathlib.Tactic.FinCases
import PrefixDelegation.Client.Config
import PrefixDelegation.Proofs.Text.Digits

/-!
# The texts that denote an identifier

An identifier can be given as text, and three passes read it: blanks are dropped at both ends, then
separators are dropped everywhere, and what is left is taken as pairs of digits, with blanks skipped
between the pairs. Which blanks are tolerated depends on where they stand at each pass.

The grammar says it without passes (`Duid.Denotes`). Between blanks of any kind stand the digits of
the octets (`Duid.Spells`), two for each, in small letters or capitals. Separators may stand anywhere
between digits, the other blanks of ASCII between two octets only.

`Given.readDuid_exact` says that reading accepts exactly the grammar, as far as the octets are those
of an identifier (`Duid.IsDuid`). The proof takes the passes from the last to the first: what the
pairs of digits say is unchanged by separators (`Duid.spells_iff`), and what a text spells is
unchanged by trimming (`Duid.Spells.trim`).
-/

namespace PrefixDelegation

open Text Octets

namespace Duid

/-! ### The grammar -/

/-- Octets that have the form of an identifier. -/
structure IsDuid (octets : Octets) : Prop where
  four_le : 4 ≤ octets.length
  /-- The first two octets are the type. -/
  type_mem : Octets.toNat (octets.take 2) ∈ [1, 2, 3, 4]
  /-- Type 1 goes on with a kind of hardware and a time. -/
  complete : Octets.toNat (octets.take 2) = 1 → 8 ≤ octets.length

/-- The characters that may stand anywhere between digits. -/
def separators : List Char := [':', '-', ' ']

/-- The characters that may stand between the digits of two octets, but not inside one: tab, line
feed, vertical tab, form feed and carriage return. -/
def octetBlanks : List Char := ['\t', '\n', '\x0b', '\x0c', '\r']

/-- **What digits spell.** `Spells s octets` says that the characters are the digits of the octets,
with what may stand between them. -/
inductive Spells : List Char → Octets → Prop
  | done : Spells [] []
  | separator {c : Char} {s : List Char} {octets : Octets} (mem : c ∈ separators)
      (rest : Spells s octets) : Spells (c :: s) octets
  | blank {c : Char} {s : List Char} {octets : Octets} (mem : c ∈ octetBlanks)
      (rest : Spells s octets) : Spells (c :: s) octets
  | octet {b : UInt8} {high low : Char} {inside s : List Char} {octets : Octets}
      (high_digit : IsHexDigit high (b.toNat / 16)) (inside_mem : ∀ c ∈ inside, c ∈ separators)
      (low_digit : IsHexDigit low (b.toNat % 16)) (rest : Spells s octets) :
      Spells (high :: (inside ++ low :: s)) (b :: octets)

/-- **The grammar of identifiers as text**: digits that spell the octets, between blanks. -/
def Denotes (text : String) (octets : Octets) : Prop :=
  ∃ before digits after, text.toList = before ++ (digits ++ after) ∧ Spells digits octets ∧
    (∀ c ∈ before, isBlank c) ∧ ∀ c ∈ after, isBlank c

/-! ### Kinds of characters -/

theorem isSeparator_iff {c : Char} : isSeparator c = true ↔ c ∈ separators := by
  simp [isSeparator, separators, or_assoc]

/-- A blank of ASCII is the space or may stand between octets. -/
theorem isAsciiBlank_iff {c : Char} : isAsciiBlank c = true ↔ c = ' ' ∨ c ∈ octetBlanks := by
  have hcases : 9 ≤ c.toNat ∧ c.toNat ≤ 13 ↔ c ∈ octetBlanks := by
    constructor
    · rintro ⟨hge, hle⟩
      rw [← Char.ofNat_toNat c]
      generalize c.toNat = n at hge hle
      interval_cases n <;> decide
    · intro hmem
      fin_cases hmem <;> decide
  rw [← hcases]
  simp [isAsciiBlank]

/-- No digit is a blank. -/
theorem hexDigit?_of_isBlank {c : Char} (h : isBlank c = true) : hexDigit? c = none := by
  rcases hd : hexDigit? c with _ | n
  · rfl
  · have hcases := hexDigit?_cases hd
    simp only [isBlank, Bool.or_eq_true, Bool.and_eq_true, decide_eq_true_eq, beq_iff_eq] at h
    omega

/-- What may stand between octets is a blank. -/
theorem isBlank_of_mem {c : Char} (h : c ∈ octetBlanks) : isBlank c = true := by
  fin_cases h <;> decide

/-- A blank that is no separator is skipped between two octets, or it is none of ASCII. -/
theorem isAsciiBlank_eq_false_of_digit {c : Char} {n : Nat} (h : hexDigit? c = some n) :
    isAsciiBlank c = false := by
  have hcases := hexDigit?_cases h
  rw [Bool.eq_false_iff, Ne, isAsciiBlank_iff]
  rintro (rfl | hmem)
  · have hspace : ' '.toNat = 32 := rfl
    omega
  · have hblank := hexDigit?_of_isBlank (isBlank_of_mem hmem)
    rw [h] at hblank
    cases hblank

end Duid

/-! ### Pairs of digits -/

namespace Octets

/-- A blank before a pair of digits is skipped. -/
theorem ofHex?_blank {c : Char} (h : isAsciiBlank c = true) (s : List Char) :
    ofHex? (c :: s) = ofHex? s := by
  cases s with
  | nil => simp only [ofHex?, h, if_true]
  | cons d s => rw [ofHex?, if_pos h]

/-- A pair of digits is an octet. -/
theorem ofHex?_pair {c d : Char} (h : isAsciiBlank c = false) (s : List Char) :
    ofHex? (c :: d :: s) = (hexDigit? c).bind fun high => (hexDigit? d).bind fun low =>
      (ofHex? s).map (UInt8.ofNat (16 * high + low) :: ·) := by
  rw [ofHex?, if_neg (by simp [h])]
  cases hexDigit? c <;> cases hexDigit? d <;> cases ofHex? s <;> rfl

/-- The octet of two digits has them as its halves. -/
theorem ofNat_digits {high low : Nat} (h : high < 16) (h' : low < 16) :
    (UInt8.ofNat (16 * high + low)).toNat / 16 = high ∧
      (UInt8.ofNat (16 * high + low)).toNat % 16 = low := by
  have hvalue : (UInt8.ofNat (16 * high + low)).toNat = 16 * high + low := by
    rw [UInt8.toNat_ofNat']
    omega
  omega

/-- A blank behind everything changes nothing. -/
theorem ofHex?_of_append_blank {s : List Char} {c : Char} {octets : Octets}
    (hc : hexDigit? c = none) (h : ofHex? (s ++ [c]) = some octets) : ofHex? s = some octets := by
  -- the induction takes two characters at a time, as the reader does
  induction s using ofHex?.induct generalizing octets with
  | case1 =>
    rw [List.nil_append, ofHex?] at h
    split at h
    · exact h
    · cases h
  | case2 d hd =>
    rw [List.singleton_append, ofHex?_blank hd] at h
    rw [ofHex?_blank hd]
    rw [ofHex?] at h
    split at h
    · exact h
    · cases h
  | case3 d hd =>
    rw [List.singleton_append, ofHex?_pair (by simpa using hd), hc] at h
    simp at h
  | case4 d e s hd ih =>
    rw [List.cons_append, ofHex?_blank hd] at h
    rw [ofHex?_blank hd]
    exact ih h
  | case5 d e s hd ih =>
    have hd' : isAsciiBlank d = false := by simpa using hd
    rw [List.cons_append, List.cons_append, ofHex?_pair hd'] at h
    rw [ofHex?_pair hd']
    obtain ⟨high, hhigh, h⟩ := Option.bind_eq_some_iff.mp h
    obtain ⟨low, hlow, h⟩ := Option.bind_eq_some_iff.mp h
    obtain ⟨rest, hrest, rfl⟩ := Option.map_eq_some_iff.mp h
    simp only [hhigh, hlow, Option.bind_some, ih hrest, Option.map_some]

end Octets

namespace Duid

/-! ### Separators -/

/-- A text without its separators. -/
def digitsOf (s : List Char) : List Char := s.filter fun c => !isSeparator c

theorem digitsOf_cons_of_mem {c : Char} (h : c ∈ separators) (s : List Char) :
    digitsOf (c :: s) = digitsOf s := by
  have hsep := isSeparator_iff.mpr h
  exact List.filter_cons_of_neg (by simp [hsep])

theorem digitsOf_cons_of_notMem {c : Char} (h : c ∉ separators) (s : List Char) :
    digitsOf (c :: s) = c :: digitsOf s := by
  have hsep : isSeparator c = false := by
    rw [Bool.eq_false_iff, Ne, isSeparator_iff]
    exact h
  exact List.filter_cons_of_pos (by simp [hsep])

theorem digitsOf_append_of_mem {inside : List Char} (h : ∀ c ∈ inside, c ∈ separators)
    (s : List Char) : digitsOf (inside ++ s) = digitsOf s := by
  induction inside with
  | nil => rfl
  | cons c inside ih =>
    rw [List.cons_append, digitsOf_cons_of_mem (h c List.mem_cons_self)]
    exact ih fun c hc => h c (List.mem_cons_of_mem _ hc)

/-- No digit is a separator. -/
theorem notMem_separators_of_digit {c : Char} {n : Nat} (h : hexDigit? c = some n) :
    c ∉ separators := by
  intro hmem
  fin_cases hmem <;> cases h

/-- What spells octets is read as them, once the separators are gone. -/
theorem Spells.read {s : List Char} {octets : Octets} (h : Spells s octets) :
    ofHex? (digitsOf s) = some octets := by
  induction h with
  | done => rfl
  | separator mem _ ih => rw [digitsOf_cons_of_mem mem, ih]
  | @blank c s octets mem _ ih =>
    have hnot : c ∉ separators := by fin_cases mem <;> decide
    rw [digitsOf_cons_of_notMem hnot, ofHex?_blank (isAsciiBlank_iff.mpr (.inr mem)), ih]
  | @octet b high low inside s octets high_digit inside_mem low_digit _ ih =>
    have hhigh := hexDigit?_eq_some_iff.mpr high_digit
    have hlow := hexDigit?_eq_some_iff.mpr low_digit
    have hvalue : UInt8.ofNat (16 * (b.toNat / 16) + b.toNat % 16) = b := by
      rw [Nat.div_add_mod, UInt8.ofNat_toNat]
    rw [digitsOf_cons_of_notMem (notMem_separators_of_digit hhigh), digitsOf_append_of_mem inside_mem,
      digitsOf_cons_of_notMem (notMem_separators_of_digit hlow),
      ofHex?_pair (isAsciiBlank_eq_false_of_digit hhigh), hhigh, hlow, ih]
    simp only [Option.bind_some, Option.map_some, hvalue]

/-- What is read as octets, once the separators are gone, spells them. -/
theorem spells_of_read {s : List Char} {octets : Octets} (h : ofHex? (digitsOf s) = some octets) :
    Spells s octets := by
  -- the induction is on the length, since an octet takes two digits and what is between them
  induction hlen : s.length using Nat.strongRecOn generalizing s octets with
  | _ length ih =>
    rcases s with _ | ⟨c, s⟩
    · cases h
      exact .done
    have hshorter : s.length < length := by simp at hlen; omega
    by_cases hsep : c ∈ separators
    · rw [digitsOf_cons_of_mem hsep] at h
      exact .separator hsep (ih _ hshorter h rfl)
    rw [digitsOf_cons_of_notMem hsep] at h
    by_cases hblank : isAsciiBlank c = true
    · -- a blank other than the space, which is a separator
      have hmem : c ∈ octetBlanks := by
        rcases isAsciiBlank_iff.mp hblank with rfl | hmem
        · exact absurd (by decide) hsep
        · exact hmem
      rw [ofHex?_blank hblank] at h
      exact .blank hmem (ih _ hshorter h rfl)
    have hdigit : isAsciiBlank c = false := by simpa using hblank
    rcases hrest : digitsOf s with _ | ⟨d, digits⟩
    · -- half an octet at the end
      rw [hrest, ofHex?, if_neg hblank] at h
      cases h
    obtain ⟨inside, s', rfl, hinside, -, hdigits⟩ := List.filter_eq_cons_iff.mp hrest
    rw [hrest, ofHex?_pair hdigit] at h
    rcases hhigh : hexDigit? c with _ | high
    · rw [hhigh] at h
      cases h
    rcases hlow : hexDigit? d with _ | low
    · rw [hhigh, hlow] at h
      cases h
    rw [hhigh, hlow] at h
    obtain ⟨rest, hread, rfl⟩ := Option.map_eq_some_iff.mp h
    have hhigh' := hexDigit?_eq_some_iff.mp hhigh
    have hlow' := hexDigit?_eq_some_iff.mp hlow
    obtain ⟨hupper, hlower⟩ := ofNat_digits hhigh'.1 hlow'.1
    have hspells : Spells s' rest := by
      refine ih s'.length ?_ ?_ rfl
      · simp at hshorter
        omega
      · rw [digitsOf, hdigits]
        exact hread
    refine .octet (by rwa [hupper]) (fun c hc => ?_) (by rwa [hlower]) hspells
    simpa [isSeparator_iff] using hinside c hc

/-- **What a text spells** is what is read when its separators are gone. -/
theorem spells_iff {s : List Char} {octets : Octets} :
    Spells s octets ↔ ofHex? (digitsOf s) = some octets :=
  ⟨Spells.read, spells_of_read⟩

/-! ### Blanks at the ends -/

/-- A blank at the start spells nothing. -/
theorem Spells.of_cons {c : Char} {s : List Char} {octets : Octets} (hc : isBlank c = true)
    (h : Spells (c :: s) octets) : Spells s octets := by
  cases h with
  | separator _ rest => exact rest
  | blank _ rest => exact rest
  | octet high_digit =>
    have hdigit := hexDigit?_eq_some_iff.mpr high_digit
    rw [hexDigit?_of_isBlank hc] at hdigit
    cases hdigit

/-- Nor does one at the end. -/
theorem Spells.of_append {c : Char} {s : List Char} {octets : Octets} (hc : isBlank c = true)
    (h : Spells (s ++ [c]) octets) : Spells s octets := by
  rw [spells_iff] at h ⊢
  by_cases hsep : c ∈ separators
  · have hlast : digitsOf (s ++ [c]) = digitsOf s := by
      rw [digitsOf, List.filter_append]
      simp [isSeparator_iff.mpr hsep, digitsOf]
    rwa [hlast] at h
  · have hlast : digitsOf (s ++ [c]) = digitsOf s ++ [c] := by
      rw [digitsOf, List.filter_append]
      exact congrArg _ (digitsOf_cons_of_notMem hsep [])
    rw [hlast] at h
    exact ofHex?_of_append_blank (hexDigit?_of_isBlank hc) h

/-- So **trimming changes nothing** about what a text spells. -/
theorem Spells.trim {s : List Char} {octets : Octets} (h : Spells s octets) :
    Spells (Text.trim s) octets := by
  have hleft : Spells (trimLeft s) octets := by
    induction s with
    | nil => exact h
    | cons c s ih =>
      by_cases hc : isBlank c = true
      · rw [trimLeft, List.dropWhile_cons_of_pos hc]
        exact ih (h.of_cons hc)
      · rw [trimLeft, List.dropWhile_cons_of_neg hc]
        exact h
  rw [Text.trim]
  generalize trimLeft s = s at hleft
  induction s using List.reverseRecOn with
  | nil => exact hleft
  | append_singleton s c ih =>
    by_cases hc : isBlank c = true
    · rw [trimRight, List.reverse_append, List.reverse_singleton, List.singleton_append,
        List.dropWhile_cons_of_pos hc]
      exact ih (hleft.of_append hc)
    · rw [trimRight, List.reverse_append, List.reverse_singleton, List.singleton_append,
        List.dropWhile_cons_of_neg hc, List.reverse_cons, List.reverse_reverse]
      exact hleft

end Duid

/-- A text is what is left when it is trimmed, between blanks. -/
theorem Text.exists_eq_trim (s : List Char) : ∃ before after, s = before ++ (Text.trim s ++ after) ∧
    (∀ c ∈ before, isBlank c = true) ∧ ∀ c ∈ after, isBlank c = true := by
  refine ⟨s.takeWhile isBlank, ((trimLeft s).reverse.takeWhile isBlank).reverse, ?_, ?_, ?_⟩
  · have hright : Text.trim s ++ ((trimLeft s).reverse.takeWhile isBlank).reverse = trimLeft s := by
      rw [Text.trim, trimRight, ← List.reverse_append, List.takeWhile_append_dropWhile,
        List.reverse_reverse]
    rw [hright]
    exact List.takeWhile_append_dropWhile.symm
  · intro c hc
    exact List.mem_takeWhile_imp hc
  · intro c hc
    exact List.mem_takeWhile_imp (List.mem_reverse.mp hc)

/-- Blanks at the ends are trimmed away. -/
theorem Text.trim_between {before s after : List Char} (h : ∀ c ∈ before, isBlank c = true)
    (h' : ∀ c ∈ after, isBlank c = true) : Text.trim (before ++ (s ++ after)) = Text.trim s := by
  have hafter : ∀ s : List Char, trimRight (s ++ after) = trimRight s := by
    intro s
    rw [trimRight, List.reverse_append,
      List.dropWhile_append_of_pos fun c hc => h' c (List.mem_reverse.mp hc), trimRight]
  have hleft : trimLeft (before ++ (s ++ after)) = trimLeft (s ++ after) :=
    List.dropWhile_append_of_pos h
  rw [Text.trim, hleft, Text.trim]
  by_cases hs : trimLeft s = []
  · -- there is nothing but blanks
    have hall : ∀ c ∈ s, isBlank c = true := List.dropWhile_eq_nil_iff.mp hs
    have hnone : trimLeft (s ++ after) = [] := by
      refine List.dropWhile_eq_nil_iff.mpr fun c hc => ?_
      exact (List.mem_append.mp hc).elim (hall c) (h' c)
    rw [hs, hnone]
  · have hsplit : trimLeft (s ++ after) = trimLeft s ++ after := by
      rw [trimLeft, List.dropWhile_append, if_neg (by simpa [trimLeft] using hs), trimLeft]
    rw [hsplit, hafter]

namespace Duid

/-! ### The whole text -/

/-- **A text denotes** what its pairs of digits say behind the three passes. -/
theorem denotes_iff {text : String} {octets : Octets} :
    Denotes text octets ↔ ofHex? (digitsOf (Text.trim text.toList)) = some octets := by
  rw [← spells_iff]
  constructor
  · rintro ⟨before, digits, after, htext, hspells, hbefore, hafter⟩
    rw [htext, Text.trim_between hbefore hafter]
    exact hspells.trim
  · intro hspells
    obtain ⟨before, after, htext, hbefore, hafter⟩ := Text.exists_eq_trim text.toList
    exact ⟨before, _, after, htext, hspells, hbefore, hafter⟩

/-- The check lets through what has the form of an identifier. -/
theorem check_eq_ok_iff {octets d : Octets} : check octets = .ok d ↔ d = octets ∧ IsDuid octets := by
  constructor
  · intro h
    simp only [check] at h
    split at h
    · cases h
    split at h
    · cases h
    split at h
    · cases h
    cases h
    refine ⟨rfl, by omega, ?_, by omega⟩
    simp only [List.mem_cons, List.not_mem_nil, or_false]
    omega
  · rintro ⟨rfl, hlen, htype, hcomplete⟩
    simp only [List.mem_cons, List.not_mem_nil, or_false] at htype
    simp only [check]
    rw [if_neg (by omega), if_neg (by omega), if_neg (by omega)]

/-- **Reading accepts the grammar**, as far as identifiers go. -/
theorem read_eq_ok_iff {text : String} {d : Octets} :
    Duid.read text = .ok d ↔ Denotes text d ∧ IsDuid d := by
  have hdigits : (Text.trim text.toList).filter (fun c => !isSeparator c)
      = digitsOf (Text.trim text.toList) := rfl
  rw [denotes_iff, Duid.read, hdigits]
  rcases ofHex? (digitsOf (Text.trim text.toList)) with _ | octets
  · simp
  · simp only [check_eq_ok_iff, Option.some.injEq]
    constructor
    · rintro ⟨rfl, h⟩
      exact ⟨rfl, h⟩
    · rintro ⟨rfl, h⟩
      exact ⟨rfl, h⟩

/-! ### What is written -/

/-- The digits of an octet are its halves. -/
theorem octetDigits_eq (b : UInt8) :
    octetDigits b = [digitChar (b.toNat / 16), digitChar (b.toNat % 16)] := by
  have hlt := b.toNat_lt
  have hhigh : b.toNat / 16 % 16 = b.toNat / 16 := Nat.mod_eq_of_lt (by omega)
  rw [octetDigits, fixed, fixed, fixed, hhigh]
  rfl

/-- What is written for octets spells them. -/
theorem spells_write (octets : Octets) : Spells (write octets).toList octets := by
  rw [write, String.toList_intercalate, List.map_map]
  have hoctet : ∀ (b : UInt8) {s : List Char} {octets : Octets}, Spells s octets →
      Spells (octetDigits b ++ s) (b :: octets) := by
    intro b s octets h
    have hlt := b.toNat_lt
    rw [octetDigits_eq]
    have hhigh : IsHexDigit (digitChar (b.toNat / 16)) (b.toNat / 16) := ⟨by omega, .inl rfl⟩
    have hlow : IsHexDigit (digitChar (b.toNat % 16)) (b.toNat % 16) := ⟨by omega, .inl rfl⟩
    have hinside : ∀ c ∈ ([] : List Char), c ∈ separators := fun _ hc => absurd hc List.not_mem_nil
    exact .octet hhigh hinside hlow h
  have hcolon : ':' ∈ separators := by decide
  induction octets with
  | nil => exact .done
  | cons b octets ih =>
    cases octets with
    | nil => simpa using hoctet b .done
    | cons b' octets =>
      have h := hoctet b (.separator hcolon ih)
      simpa [List.intercalate] using h

/-- What is written denotes the octets. -/
theorem denotes_write (octets : Octets) : Denotes (write octets) octets :=
  ⟨[], _, [], by simp, spells_write octets, by simp, by simp⟩

end Duid

/-- **Reading identifiers is exact.** A text is read as octets exactly if it denotes them and they
have the form of an identifier; every other text is refused. Given as they are, octets are accepted
exactly if they have that form. What is written for an identifier is read back, so the written form is
a normal form: read and written again, it stays the same. -/
theorem Given.readDuid_exact :
    (∀ text d, (Given.text text).readDuid = .ok d ↔ Duid.Denotes text d ∧ Duid.IsDuid d) ∧
      (∀ text, (¬ ∃ d, Duid.Denotes text d ∧ Duid.IsDuid d) →
        ∃ e, (Given.text text).readDuid = .error (.duid e)) ∧
      (∀ bs d, (Given.octets bs).readDuid = .ok d ↔ d = bs ∧ Duid.IsDuid bs) ∧
      (∀ d, Duid.IsDuid d → (Given.text (Duid.write d)).readDuid = .ok d) ∧
      ∀ text d, (Given.text text).readDuid = .ok d →
        ((Given.text (Duid.write d)).readDuid.map Duid.write) = .ok (Duid.write d) := by
  have hread : ∀ text d, (Given.text text).readDuid = .ok d ↔
      Duid.Denotes text d ∧ Duid.IsDuid d := by
    intro text d
    rw [← Duid.read_eq_ok_iff, Given.readDuid]
    cases Duid.read text <;> simp [Except.mapError]
  have hwritten : ∀ d, Duid.IsDuid d → (Given.text (Duid.write d)).readDuid = .ok d :=
    fun d h => (hread _ d).mpr ⟨Duid.denotes_write d, h⟩
  refine ⟨hread, ?_, ?_, hwritten, ?_⟩
  · intro text hnone
    rcases h : Duid.read text with e | d
    · exact ⟨e, by rw [Given.readDuid, h]; rfl⟩
    · exact absurd ⟨d, Duid.read_eq_ok_iff.mp h⟩ hnone
  · intro bs d
    rw [← Duid.check_eq_ok_iff, Given.readDuid]
    cases Duid.check bs <;> simp [Except.mapError]
  · intro text d h
    rw [hwritten d ((hread text d).mp h).2]
    rfl

/-- Separators inside an octet, a line feed between two octets and blanks of any kind at the ends are
read over; what was read is written in one form, which is read back. A tab inside an octet is
refused. -/
theorem Given.readDuid_exact_of_scattered_blanks :
    Duid.Denotes " \t0:0 0-3\n00: 01\u2003" [0, 3, 0, 1] ∧ Duid.IsDuid [0, 3, 0, 1] ∧
      (Given.text " \t0:0 0-3\n00: 01\u2003").readDuid = .ok [0, 3, 0, 1] ∧
      (Given.octets [0, 3, 0, 1]).readDuid = .ok [0, 3, 0, 1] ∧
      (Given.text (Duid.write [0, 3, 0, 1])).readDuid.map Duid.write =
        .ok (Duid.write [0, 3, 0, 1]) ∧
      (¬ ∃ d, Duid.Denotes "000300\t0\t1" d ∧ Duid.IsDuid d) ∧
      ∃ e, (Given.text "000300\t0\t1").readDuid = .error (.duid e) := by
  obtain ⟨hread, hrefused, hoctets, -, hnormal⟩ := Given.readDuid_exact
  have hdenotes : Duid.Denotes " \t0:0 0-3\n00: 01\u2003" [0, 3, 0, 1] :=
    Duid.denotes_iff.mpr (by decide)
  have hduid : Duid.IsDuid [0, 3, 0, 1] := ⟨by decide, by decide, by decide⟩
  have htext := (hread _ _).mpr ⟨hdenotes, hduid⟩
  have hinside : ¬ ∃ d, Duid.Denotes "000300\t0\t1" d ∧ Duid.IsDuid d := by
    rintro ⟨d, hd, -⟩
    have hnone : ofHex? (Duid.digitsOf (Text.trim "000300\t0\t1".toList)) = none := by decide
    rw [Duid.denotes_iff, hnone] at hd
    cases hd
  exact ⟨hdenotes, hduid, htext, (hoctets _ _).mpr ⟨rfl, hduid⟩, hnormal _ _ htext, hinside,
    hrefused _ hinside⟩

end PrefixDelegation
