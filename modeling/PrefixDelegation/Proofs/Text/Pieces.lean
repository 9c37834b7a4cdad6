import PrefixDelegation.Text.Pieces

/-!
# Pieces are told apart

A list of pieces with a separator between neighbours is split into the same pieces, as long as there
is a piece and none holds the separator (`splitAt_join`). Splitting loses nothing: a character that is
no separator is in one of the pieces (`exists_mem_splitAt`).
-/

namespace PrefixDelegation.Text

variable {separator : Char}

theorem splitAt_ne_nil (separator : Char) (s : List Char) : splitAt separator s ≠ [] := by
  cases s with
  | nil => exact List.cons_ne_nil _ _
  | cons c rest =>
    unfold splitAt
    split
    · exact List.cons_ne_nil _ _
    · split <;> exact List.cons_ne_nil _ _

/-- A character that is no separator goes to the front of the first piece. -/
theorem splitAt_cons_of_ne {c : Char} (h : c ≠ separator) {rest piece : List Char}
    {pieces : List (List Char)} (hrest : splitAt separator rest = piece :: pieces) :
    splitAt separator (c :: rest) = (c :: piece) :: pieces := by
  rw [splitAt, if_neg (by simpa using h), hrest]

/-- A text without a separator is one piece. -/
theorem splitAt_of_notMem {s : List Char} (h : separator ∉ s) : splitAt separator s = [s] := by
  induction s with
  | nil => rfl
  | cons c rest ih =>
    have hc : separator ≠ c := List.ne_of_not_mem_cons h
    exact splitAt_cons_of_ne hc.symm (ih (List.not_mem_of_not_mem_cons h))

/-- The first separator ends the first piece. -/
theorem splitAt_append {s : List Char} (h : separator ∉ s) (rest : List Char) :
    splitAt separator (s ++ separator :: rest) = s :: splitAt separator rest := by
  induction s with
  | nil => rw [List.nil_append, splitAt, if_pos (by simp)]
  | cons c s ih =>
    have hc : separator ≠ c := List.ne_of_not_mem_cons h
    exact splitAt_cons_of_ne hc.symm (ih (List.not_mem_of_not_mem_cons h))

theorem join_cons {separator piece : List Char} {pieces : List (List Char)} (h : pieces ≠ []) :
    join separator (piece :: pieces) = piece ++ separator ++ join separator pieces := by
  cases pieces with
  | nil => exact absurd rfl h
  | cons next pieces => rfl

/-- **Joined pieces are split again.** -/
theorem splitAt_join {pieces : List (List Char)} (hne : pieces ≠ [])
    (h : ∀ piece ∈ pieces, separator ∉ piece) :
    splitAt separator (join [separator] pieces) = pieces := by
  induction pieces with
  | nil => exact absurd rfl hne
  | cons piece pieces ih =>
    have hpiece := h piece List.mem_cons_self
    by_cases hlast : pieces = []
    · rw [hlast]
      exact splitAt_of_notMem hpiece
    · rw [join_cons hlast, List.append_assoc, List.singleton_append, splitAt_append hpiece,
        ih hlast fun p hp => h p (List.mem_cons_of_mem _ hp)]

/-- What is in joined pieces is in one of them, or in the separator. -/
theorem mem_join {separator : List Char} {pieces : List (List Char)} {c : Char}
    (h : c ∈ join separator pieces) : c ∈ separator ∨ ∃ piece ∈ pieces, c ∈ piece := by
  induction pieces with
  | nil => cases h
  | cons piece pieces ih =>
    by_cases hlast : pieces = []
    · rw [hlast] at h
      exact .inr ⟨piece, List.mem_cons_self, h⟩
    · rw [join_cons hlast] at h
      rcases List.mem_append.mp h with hfront | hrest
      · rcases List.mem_append.mp hfront with hpiece | hseparator
        · exact .inr ⟨piece, List.mem_cons_self, hpiece⟩
        · exact .inl hseparator
      · rcases ih hrest with hseparator | ⟨p, hp, hmem⟩
        · exact .inl hseparator
        · exact .inr ⟨p, List.mem_cons_of_mem _ hp, hmem⟩

/-- A character that is no separator is in a piece. -/
theorem exists_mem_splitAt {s : List Char} {c : Char} (hc : c ≠ separator) (h : c ∈ s) :
    ∃ piece ∈ splitAt separator s, c ∈ piece := by
  induction s with
  | nil => cases h
  | cons d rest ih =>
    by_cases hd : d = separator
    · have hrest : c ∈ rest := (List.mem_cons.mp h).resolve_left (fun heq => hc (heq.trans hd))
      obtain ⟨piece, hpiece, hmem⟩ := ih hrest
      rw [splitAt, if_pos (by simpa using hd)]
      exact ⟨piece, List.mem_cons_of_mem _ hpiece, hmem⟩
    · obtain ⟨first, pieces, hsplit⟩ := List.exists_cons_of_ne_nil (splitAt_ne_nil separator rest)
      rw [splitAt_cons_of_ne hd hsplit]
      rcases List.mem_cons.mp h with rfl | hrest
      · exact ⟨_, List.mem_cons_self, List.mem_cons_self⟩
      · obtain ⟨piece, hpiece, hmem⟩ := ih hrest
        rw [hsplit] at hpiece
        rcases List.mem_cons.mp hpiece with rfl | hpiece
        · exact ⟨_, List.mem_cons_self, List.mem_cons_of_mem _ hmem⟩
        · exact ⟨piece, List.mem_cons_of_mem _ hpiece, hmem⟩

end PrefixDelegation.Text
