import Mathlib.Data.List.TakeWhile
import Mathlib.Tactic.Common
import PrefixDelegation.Text.Blank

/-!
# The words of a text

Words are what blanks separate. `Text.Separated` says it without a reader: the words of a text stand
in it in order, none of them is empty or holds a blank, any blanks may stand before the first word
and behind the last, and at least one stands between two neighbours. Every text is separated into
words in this way (`Text.exists_separated`), and `Text.words` finds these words and no others
(`Text.words_eq_iff`), so a text has only one list of words.
-/

namespace PrefixDelegation.Text

/-- **The words of a text**, and the blanks around them. -/
inductive Separated : List Char → List (List Char) → Prop
  /-- There is nothing but blanks. -/
  | blanks {s : List Char} (blank : ∀ c ∈ s, isBlank c = true) : Separated s []
  /-- A word behind blanks. What follows it starts with a blank, if anything follows. -/
  | word {before word rest : List Char} {others : List (List Char)}
      (blank : ∀ c ∈ before, isBlank c = true) (nonempty : word ≠ [])
      (plain : ∀ c ∈ word, isBlank c = false) (parted : ∀ c ∈ rest.head?, isBlank c = true)
      (behind : Separated rest others) : Separated (before ++ (word ++ rest)) (word :: others)

variable {s word rest before : List Char} {ws : List (List Char)}

/-! ### What the reader does -/

/-- A blank between words is skipped. -/
theorem words_cons_of_isBlank {c : Char} (h : isBlank c = true) (s : List Char) :
    words (c :: s) = words s := by
  unfold words
  rw [wordsFrom, if_pos h]
  rfl

/-- Blanks before a word are skipped. -/
theorem words_append_of_isBlank (h : ∀ c ∈ before, isBlank c = true) (s : List Char) :
    words (before ++ s) = words s := by
  induction before with
  | nil => rfl
  | cons c before ih =>
    rw [List.cons_append, words_cons_of_isBlank (h c List.mem_cons_self)]
    exact ih fun d hd => h d (List.mem_cons_of_mem c hd)

/-- What is no blank goes to the word that is being read. -/
theorem wordsFrom_append_of_plain (h : ∀ c ∈ word, isBlank c = false) (read rest : List Char) :
    wordsFrom read (word ++ rest) = wordsFrom (word.reverse ++ read) rest := by
  induction word generalizing read with
  | nil => rfl
  | cons c word ih =>
    have hplain : isBlank c = false := h c List.mem_cons_self
    rw [List.cons_append, wordsFrom, if_neg (by simp [hplain]),
      ih (fun d hd => h d (List.mem_cons_of_mem c hd)), List.reverse_cons, List.append_assoc]
    rfl

/-- A word ends where a blank stands, or where the text ends. -/
theorem wordsFrom_of_parted {read : List Char} (hread : read ≠ [])
    (h : ∀ c ∈ rest.head?, isBlank c = true) :
    wordsFrom read rest = read.reverse :: words rest := by
  have hsome : read.isEmpty = false := by simpa using hread
  cases rest with
  | nil =>
    rw [wordsFrom, hsome]
    rfl
  | cons c rest =>
    have hblank : isBlank c = true := h c rfl
    rw [words_cons_of_isBlank hblank, wordsFrom, if_pos hblank, hsome]
    rfl

/-- **The words that blanks separate are found.** -/
theorem Separated.words_eq (h : Separated s ws) : words s = ws := by
  induction h with
  | @blanks s blank =>
    have hall := words_append_of_isBlank blank []
    rw [List.append_nil] at hall
    exact hall
  | @word before word rest others blank nonempty plain parted _ ih =>
    have hread : word.reverse ++ [] ≠ [] := by simpa using nonempty
    rw [words_append_of_isBlank blank, words, wordsFrom_append_of_plain plain,
      wordsFrom_of_parted hread parted, List.append_nil, List.reverse_reverse, ih]

/-! ### Every text has words -/

/-- What is left behind the characters of a kind does not start with one. -/
theorem eq_false_of_head?_dropWhile {p : Char → Bool} {s : List Char} {c : Char}
    (h : c ∈ (s.dropWhile p).head?) : p c = false := by
  have hnot := List.head?_dropWhile_not p s
  rw [Option.mem_def.mp h] at hnot
  exact hnot

/-- **Every text is separated into words.** -/
theorem exists_separated (s : List Char) : ∃ ws, Separated s ws := by
  -- the induction is on the length, since a step takes blanks and a whole word
  induction hlen : s.length using Nat.strongRecOn generalizing s with
  | _ length ih =>
    have hblank : ∀ c ∈ s.takeWhile isBlank, isBlank c = true := fun c => List.mem_takeWhile_imp
    have hsplit := List.takeWhile_append_dropWhile (p := isBlank) (l := s)
    rcases hrest : s.dropWhile isBlank with _ | ⟨c, rest⟩
    · exact ⟨[], .blanks (List.dropWhile_eq_nil_iff.mp hrest)⟩
    rw [hrest] at hsplit
    have hc : isBlank c = false := eq_false_of_head?_dropWhile (s := s) (by rw [hrest]; rfl)
    -- the word goes on behind its first character, up to the next blank
    have hword := List.takeWhile_append_dropWhile (p := (!isBlank ·)) (l := rest)
    have hshorter : (rest.dropWhile (!isBlank ·)).length < length := by
      have hle := (List.dropWhile_sublist (l := rest) (!isBlank ·)).length_le
      have hlength := congrArg List.length hsplit
      rw [List.length_append, List.length_cons] at hlength
      omega
    obtain ⟨others, hothers⟩ := ih _ hshorter _ rfl
    have hplain : ∀ d ∈ c :: rest.takeWhile (!isBlank ·), isBlank d = false := by
      intro d hd
      rcases List.mem_cons.mp hd with rfl | hd
      · exact hc
      · simpa using List.mem_takeWhile_imp hd
    have hparted : ∀ d ∈ (rest.dropWhile (!isBlank ·)).head?, isBlank d = true := by
      intro d hd
      simpa using eq_false_of_head?_dropWhile hd
    have hs := Separated.word hblank (List.cons_ne_nil _ _) hplain hparted hothers
    rw [List.cons_append, hword, hsplit] at hs
    exact ⟨_, hs⟩

/-- **Words are what blanks separate.** -/
theorem words_eq_iff : words s = ws ↔ Separated s ws := by
  refine ⟨fun h => ?_, Separated.words_eq⟩
  obtain ⟨ws', hs⟩ := exists_separated s
  rw [← h, hs.words_eq]
  exact hs

end PrefixDelegation.Text
