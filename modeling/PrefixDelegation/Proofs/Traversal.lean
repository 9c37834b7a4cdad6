import Mathlib.Data.List.Forall2
import Mathlib.Data.List.Perm.Basic
import Mathlib.Tactic.Common

/-!
# Going on until something fails

A computation over `Except` comes to a value if each of its steps does (`bind_eq_ok_iff`).

`List.mapM` and `List.foldlM` stop at the first failure. For `mapM` the results stand
in the places of the items (`mapM_eq_ok_iff`, `getElem?_of_mapM`), so the same items in another order
have the same results in another order (`mapM_perm`); there are results exactly if nothing fails
(`mapM_ok_iff`), and a failure is that of some item (`mem_of_mapM_eq_error`), which is the first that
fails (`mapM_eq_error_iff`). A fold fails with what one of its steps fails with
(`mem_of_foldlM_eq_error`), and one whose step cannot fail cannot fail either (`foldlM_ok`).
-/

namespace PrefixDelegation

section Steps

variable {ε ε' α β : Type}

/-- One step after the other comes to a value if both do. -/
theorem bind_eq_ok_iff {x : Except ε α} {f : α → Except ε β} {b : β} :
    x >>= f = .ok b ↔ ∃ a, x = .ok a ∧ f a = .ok b := by
  constructor
  · intro h
    cases x with
    | error e => cases h
    | ok a => exact ⟨a, rfl, h⟩
  · rintro ⟨a, rfl, h⟩
    exact h

theorem map_eq_ok_iff {x : Except ε α} {f : α → β} {b : β} :
    x.map f = .ok b ↔ ∃ a, x = .ok a ∧ f a = b := by
  constructor
  · intro h
    cases x with
    | error e => cases h
    | ok a => exact ⟨a, rfl, Except.ok.inj h⟩
  · rintro ⟨a, rfl, rfl⟩
    rfl

/-- With another kind of failure the same values come out. -/
theorem mapError_eq_ok_iff {x : Except ε α} {f : ε → ε'} {a : α} :
    x.mapError f = .ok a ↔ x = .ok a := by
  constructor
  · intro h
    cases x with
    | error e => cases h
    | ok a' => exact congrArg Except.ok (Except.ok.inj h)
  · rintro rfl
    rfl

end Steps

variable {ε α β : Type} {f : α → Except ε β}

/-- A walk over a list comes to its results one by one. -/
theorem mapM_eq_ok_iff {l : List α} {out : List β} :
    l.mapM f = .ok out ↔ List.Forall₂ (fun a b => f a = .ok b) l out := by
  induction l generalizing out with
  | nil =>
    rw [List.mapM_nil, List.forall₂_nil_left_iff]
    constructor
    · intro h
      cases h
      rfl
    · rintro rfl
      rfl
  | cons a l ih =>
    rw [List.mapM_cons, List.forall₂_cons_left_iff, bind_eq_ok_iff]
    constructor
    · -- the first item succeeds, the rest does, and the results are put together
      rintro ⟨b, ha, hrest⟩
      obtain ⟨bs, hl, hout⟩ := bind_eq_ok_iff.mp hrest
      cases hout
      exact ⟨b, bs, ha, ih.mp hl, rfl⟩
    · rintro ⟨b, bs, ha, hl, rfl⟩
      exact ⟨b, ha, bind_eq_ok_iff.mpr ⟨bs, ih.mpr hl, rfl⟩⟩

/-- The result of an item stands where the item stood. -/
theorem getElem?_of_mapM {l : List α} {out : List β} {i : Nat} {a : α}
    (h : l.mapM f = .ok out) (ha : l[i]? = some a) : ∃ b, out[i]? = some b ∧ f a = .ok b := by
  have hall := mapM_eq_ok_iff.mp h
  clear h
  induction hall generalizing i with
  | nil =>
    rw [List.getElem?_nil] at ha
    cases ha
  | @cons a' b l out hb _ ih =>
    cases i with
    | zero =>
      rw [List.getElem?_cons_zero, Option.some.injEq] at ha
      rw [← ha]
      exact ⟨b, List.getElem?_cons_zero, hb⟩
    | succ i =>
      rw [List.getElem?_cons_succ] at ha ⊢
      exact ih ha

/-- Every result is that of an item. -/
theorem mem_of_mapM {l : List α} {out : List β} {b : β} (h : l.mapM f = .ok out) (hb : b ∈ out) :
    ∃ a ∈ l, f a = .ok b := by
  have hall := mapM_eq_ok_iff.mp h
  clear h
  induction hall with
  | nil => cases hb
  | cons ha _ ih =>
    rcases List.mem_cons.mp hb with rfl | hb'
    · exact ⟨_, List.mem_cons_self, ha⟩
    · obtain ⟨a, hmem, hab⟩ := ih hb'
      exact ⟨a, List.mem_cons_of_mem _ hmem, hab⟩

/-- A walk over the front of a list comes to the front of its results. -/
theorem mapM_take {l : List α} {out : List β} (n : Nat) (h : l.mapM f = .ok out) :
    (l.take n).mapM f = .ok (out.take n) :=
  mapM_eq_ok_iff.mpr (List.forall₂_take n (mapM_eq_ok_iff.mp h))

/-- A walk over the same items in another order comes to the same results in another order. -/
theorem mapM_perm {l l' : List α} {out : List β} (hperm : l'.Perm l) (h : l.mapM f = .ok out) :
    ∃ out', l'.mapM f = .ok out' ∧ out'.Perm out := by
  obtain ⟨out', hall, hout⟩ := List.perm_comp_forall₂ hperm (mapM_eq_ok_iff.mp h)
  exact ⟨out', mapM_eq_ok_iff.mpr hall, hout⟩

/-- What a walk fails with is what some item fails with. -/
theorem mem_of_mapM_eq_error {l : List α} {e : ε} (h : l.mapM f = .error e) :
    ∃ a ∈ l, f a = .error e := by
  induction l with
  | nil => cases h
  | cons a l ih =>
    rw [List.mapM_cons] at h
    rcases ha : f a with e' | b
    · rw [ha] at h
      cases h
      exact ⟨a, List.mem_cons_self, ha⟩
    · rcases hl : l.mapM f with e' | bs
      · rw [ha, hl] at h
        cases h
        obtain ⟨a', hmem, ha'⟩ := ih hl
        exact ⟨a', List.mem_cons_of_mem a hmem, ha'⟩
      · rw [ha, hl] at h
        cases h

/-- A walk comes to results exactly if no item fails. -/
theorem mapM_ok_iff {l : List α} :
    (∃ out, l.mapM f = .ok out) ↔ ∀ a ∈ l, ∃ b, f a = .ok b := by
  constructor
  · rintro ⟨out, h⟩ a ha
    obtain ⟨i, hi⟩ := List.getElem?_of_mem ha
    obtain ⟨b, -, hb⟩ := getElem?_of_mapM h hi
    exact ⟨b, hb⟩
  · intro h
    rcases hl : l.mapM f with e | out
    · obtain ⟨a, ha, he⟩ := mem_of_mapM_eq_error hl
      obtain ⟨b, hb⟩ := h a ha
      rw [he] at hb
      cases hb
    · exact ⟨out, rfl⟩

/-- **A walk fails where the first item fails**, with what that item fails with. -/
theorem mapM_eq_error_iff {l : List α} {e : ε} : l.mapM f = .error e ↔
    ∃ before a after, l = before ++ a :: after ∧ (∀ b ∈ before, ∃ c, f b = .ok c) ∧
      f a = .error e := by
  constructor
  · intro h
    induction l with
    | nil => cases h
    | cons a l ih =>
      rw [List.mapM_cons] at h
      rcases ha : f a with e' | b
      · rw [ha] at h
        cases h
        exact ⟨[], a, l, rfl, fun b hb => absurd hb List.not_mem_nil, ha⟩
      · rcases hl : l.mapM f with e' | bs
        · rw [ha, hl] at h
          cases h
          obtain ⟨before, a', after, rfl, hbefore, ha'⟩ := ih hl
          exact ⟨a :: before, a', after, rfl, List.forall_mem_cons.mpr ⟨⟨b, ha⟩, hbefore⟩, ha'⟩
        · rw [ha, hl] at h
          cases h
  · rintro ⟨before, a, after, rfl, hbefore, ha⟩
    obtain ⟨bs, hbs⟩ := mapM_ok_iff.mpr hbefore
    rw [List.mapM_append, hbs, List.mapM_cons, ha]
    rfl

/-- What a fold fails with is what some step fails with. -/
theorem mem_of_foldlM_eq_error {g : β → α → Except ε β} {l : List α} {b : β} {e : ε}
    (h : l.foldlM g b = .error e) : ∃ a ∈ l, ∃ b', g b' a = .error e := by
  induction l generalizing b with
  | nil => cases h
  | cons a l ih =>
    rw [List.foldlM_cons] at h
    rcases hb : g b a with e' | b'
    · rw [hb] at h
      cases h
      exact ⟨a, List.mem_cons_self, b, hb⟩
    · rw [hb] at h
      obtain ⟨a', hmem, b'', hb''⟩ := ih h
      exact ⟨a', List.mem_cons_of_mem a hmem, b'', hb''⟩

/-- A fold comes to a result if no step fails. -/
theorem foldlM_ok {g : β → α → Except ε β} {l : List α}
    (h : ∀ a ∈ l, ∀ b, ∃ b', g b a = .ok b') (b : β) : ∃ b', l.foldlM g b = .ok b' := by
  induction l generalizing b with
  | nil => exact ⟨b, rfl⟩
  | cons a l ih =>
    obtain ⟨b', hb'⟩ := h a List.mem_cons_self b
    rw [List.foldlM_cons, hb']
    exact ih (fun a ha => h a (List.mem_cons_of_mem _ ha)) b'

end PrefixDelegation
