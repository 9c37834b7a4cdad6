import PrefixDelegation.Console.Table
import PrefixDelegation.Proofs.Traversal

/-!
# Text without markup

Only a bracket can start a tag. So a text without brackets is one part and nothing can be wrong with
its markup (`Markup.plain_of_notMem`), nor is anything wrong with it between the tags of a style
(`Markup.plain_red`), and a table of such texts can always be shown (`Table.render_ok`).
-/

namespace PrefixDelegation.Console

namespace Markup

variable {s : List Char}

theorem readTag?_eq_none (h : '[' ∉ s) : readTag? s = none := by
  unfold readTag?
  split
  · exact absurd List.mem_cons_self h
  · rfl

theorem readEscapedTag?_eq_none (h : '[' ∉ s) : readEscapedTag? s = none := by
  unfold readEscapedTag?
  dsimp only
  rw [readTag?_eq_none fun hmem => h (List.mem_of_mem_drop hmem)]
  rfl

/-- A text without brackets is one part. -/
theorem partsFrom_of_notMem {limit : Nat} (hlimit : s.length ≤ limit) (h : '[' ∉ s)
    (read : List Char) : partsFrom limit read s = textPart (read.reverse ++ s) := by
  induction limit generalizing read s with
  | zero =>
    rw [List.length_eq_zero_iff.mp (Nat.le_zero.mp hlimit), List.append_nil]
    rfl
  | succ limit ih =>
    cases s with
    | nil =>
      rw [List.append_nil]
      rfl
    | cons c s =>
      rw [partsFrom, readEscapedTag?_eq_none h]
      dsimp only
      rw [ih (Nat.le_of_succ_le_succ hlimit) (List.not_mem_of_not_mem_cons h), List.reverse_cons,
        List.append_assoc, List.singleton_append]

/-- A backslash more before what may be a tag. -/
theorem readEscapedTag?_backslash (s : List Char) : readEscapedTag? ('\\' :: s)
    = (readEscapedTag? s).map fun found => (found.1 + 1, found.2) := by
  unfold readEscapedTag?
  rw [List.takeWhile_cons_of_pos (by decide)]
  simp [Function.comp_def]

/-- Something else than a backslash or a bracket starts no tag. -/
theorem readEscapedTag?_cons {c : Char} (h : c ≠ '\\') (hbracket : c ≠ '[') (s : List Char) :
    readEscapedTag? (c :: s) = none := by
  unfold readEscapedTag? readTag?
  rw [List.takeWhile_cons_of_neg (by simpa using h)]
  simp [hbracket]

/-- There is no tag at the start of a text that holds no bracket, whatever follows it, unless its last
character is a backslash, which may escape a tag behind it. -/
theorem readEscapedTag?_append (h : '[' ∉ s) (hne : s ≠ []) (hlast : s.getLast? ≠ some '\\')
    (rest : List Char) : readEscapedTag? (s ++ rest) = none := by
  induction s with
  | nil => exact absurd rfl hne
  | cons c s ih =>
    by_cases hc : c = '\\'
    · rcases s with _ | ⟨d, s⟩
      · exact absurd (congrArg some hc) hlast
      rw [List.getLast?_cons_cons] at hlast
      rw [hc, List.cons_append, readEscapedTag?_backslash,
        ih (List.not_mem_of_not_mem_cons h) (List.cons_ne_nil d s) hlast]
      rfl
    · exact readEscapedTag?_cons hc (List.ne_of_not_mem_cons h).symm _

/-- What stands before a tag is text, if it holds no bracket and does not escape the tag. -/
theorem partsFrom_append (h : '[' ∉ s) (hlast : s.getLast? ≠ some '\\') (limit : Nat)
    (read rest : List Char) :
    partsFrom (s.length + limit) read (s ++ rest) = partsFrom limit (s.reverse ++ read) rest := by
  induction s generalizing read with
  | nil =>
    rw [List.length_nil, Nat.zero_add]
    rfl
  | cons c s ih =>
    have hnone := readEscapedTag?_append h (List.cons_ne_nil c s) hlast rest
    have hlast' : s.getLast? ≠ some '\\' := by
      cases s with
      | nil => exact (Option.some_ne_none _).symm
      | cons d s => rwa [List.getLast?_cons_cons] at hlast
    rw [List.length_cons, Nat.add_right_comm, List.cons_append, partsFrom]
    rw [List.cons_append] at hnone
    rw [hnone]
    dsimp only
    rw [ih (List.not_mem_of_not_mem_cons h) hlast', List.reverse_cons, List.append_assoc]
    rfl

/-- **A text without brackets can be shown.** -/
theorem plain_of_notMem (h : '[' ∉ s) : ∃ shown, plain s = .ok shown := by
  unfold plain partsOf
  rw [partsFrom_of_notMem (Nat.le_refl _) h]
  unfold textPart
  split
  · exact ⟨[], rfl⟩
  · exact ⟨_, rfl⟩

/-- The parts of a text without brackets in red. -/
theorem partsOf_red (h : '[' ∉ s) (hlast : s.getLast? ≠ some '\\') :
    partsOf ("[red]".toList ++ s ++ "[/red]".toList)
      = [.tag "red".toList] ++ textPart s ++ [.tag "/red".toList] := by
  have hlen : ("[red]".toList ++ s ++ "[/red]".toList).length = s.length + 10 + 1 := by simp
  have hopens : readEscapedTag? ('[' :: ("red]".toList ++ (s ++ "[/red]".toList)))
      = some (0, "red".toList, s ++ "[/red]".toList) := by
    simp [readEscapedTag?, readTag?, startsTag]
  have hcloses : partsFrom 10 s.reverse "[/red]".toList
      = textPart s.reverse.reverse ++ escapedParts 0 "/red".toList ++ [] := rfl
  unfold partsOf
  rw [hlen, List.append_assoc]
  change partsFrom _ [] ('[' :: ("red]".toList ++ (s ++ "[/red]".toList))) = _
  rw [partsFrom, hopens]
  dsimp only
  rw [partsFrom_append h hlast, List.append_nil, hcloses, List.reverse_reverse, List.append_nil]
  rfl

/-- **A text without brackets can be shown in red**, unless its last character escapes the tag that
closes the style. -/
theorem plain_red (h : '[' ∉ s) (hlast : s.getLast? ≠ some '\\') :
    ∃ shown, plain ("[red]".toList ++ s ++ "[/red]".toList) = .ok shown := by
  have hclose : showParts [⟨"red", []⟩] [.tag "/red".toList] = .ok [] := by
    with_unfolding_all rfl
  unfold plain
  rw [partsOf_red h hlast]
  change ∃ shown, showParts [⟨"red", []⟩] (textPart s ++ [.tag "/red".toList]) = .ok shown
  unfold textPart
  split
  · exact ⟨[], hclose⟩
  · rw [List.singleton_append, showParts, hclose]
    exact ⟨_, rfl⟩

end Markup

/-- **A table of texts without brackets can be shown**, however wide the console is. -/
theorem Table.render_ok {t : Table} (h : ∀ r ∈ t.rows, '[' ∉ r.value.toList) (console : Nat) :
    ∃ text, t.render console = .ok text := by
  have hrow : ∀ r ∈ t.rows, ∃ shown : ShownRow, (do
      return (r.label.toList, ← Markup.plain r.value.toList) : Except MarkupError ShownRow)
        = .ok shown := by
    intro r hr
    obtain ⟨shown, hshown⟩ := Markup.plain_of_notMem (h r hr)
    rw [hshown]
    exact ⟨_, rfl⟩
  obtain ⟨rows, hrows⟩ := mapM_ok_iff.mpr hrow
  unfold Table.render
  rw [hrows]
  exact ⟨_, rfl⟩

end PrefixDelegation.Console
