import Mathlib.Data.List.Basic
import Mathlib.Tactic.Common
import PrefixDelegation.Files.Basic

/-!
# A file that was replaced

Once a file was replaced, the path leads to the new text (`read_replace`), and so does the place that
the names of the path name (`at?_replace`). Replacing can make directories on the way, writes beside
the old file and moves the new one over it; none of this stops the path from leading where it led,
because what is moved comes from the same directory as the old file (`Replacement`), and what was a
directory still is one (`Replacement.kindAt`).
-/

namespace PrefixDelegation

namespace Files

/-! ### What is at a place -/

theorem lookup_filter_ne {entries : List (Place × FileContent)} {place other : Place}
    (h : other ≠ place) :
    (entries.filter (·.1 ≠ place)).lookup other = entries.lookup other := by
  induction entries with
  | nil => rfl
  | cons entry entries ih =>
    obtain ⟨here, content⟩ := entry
    by_cases hhere : here = place
    · have hother : (other == here) = false := by
        rw [beq_eq_false_iff_ne, hhere]
        exact h
      rw [List.filter_cons_of_neg (by simpa using hhere), ih, List.lookup_cons, hother]
    · rw [List.filter_cons_of_pos (by simpa using hhere), List.lookup_cons, List.lookup_cons, ih]

theorem lookup_filter_self (entries : List (Place × FileContent)) (place : Place) :
    (entries.filter (·.1 ≠ place)).lookup place = none := by
  induction entries with
  | nil => rfl
  | cons entry entries ih =>
    by_cases hhere : entry.1 = place
    · rw [List.filter_cons_of_neg (by simpa using hhere), ih]
    · have hother : (place == entry.1) = false := by
        rw [beq_eq_false_iff_ne]
        exact fun heq => hhere heq.symm
      rw [List.filter_cons_of_pos (by simpa using hhere), List.lookup_cons, hother, ih]

theorem lookup_append_singleton (entries : List (Place × FileContent)) (place other : Place)
    (content : FileContent) : (entries ++ [(place, content)]).lookup other
      = (entries.lookup other).or (if other = place then some content else none) := by
  induction entries with
  | nil =>
    by_cases h : other = place
    · simp [h]
    · have hne : (other == place) = false := by simpa using h
      simp [List.lookup_cons, h, hne]
  | cons entry entries ih =>
    rw [List.cons_append, List.lookup_cons, List.lookup_cons]
    split
    · rfl
    · exact ih

@[simp] theorem at?_put_self (f : Files) (place : Place) (content : FileContent) :
    (f.put place content).at? place = some content := by
  unfold at? put
  rw [lookup_append_singleton, lookup_filter_self, if_pos rfl]
  rfl

theorem at?_put_of_ne (f : Files) {place other : Place} (content : FileContent)
    (h : other ≠ place) : (f.put place content).at? other = f.at? other := by
  unfold at? put
  rw [lookup_append_singleton, lookup_filter_ne h, if_neg h, Option.or_none]

@[simp] theorem at?_remove_self (f : Files) (place : Place) : (f.remove place).at? place = none :=
  lookup_filter_self f.entries place

theorem at?_remove_of_ne (f : Files) {place other : Place} (h : other ≠ place) :
    (f.remove place).at? other = f.at? other :=
  lookup_filter_ne h

/-! ### Following paths -/

theorem kindAt_eq_directory_iff {f : Files} {place : Place} :
    f.kindAt place = some .directory ↔ f.at? place = none ∧ f.leadsOn place = true := by
  unfold kindAt
  cases f.at? place with
  | none => simp
  | some content => simp

/-- A place leads on if it is a directory that is known or on the way to one, or on the way to a
file. -/
theorem leadsOn_iff {f : Files} {place : Place} : f.leadsOn place = true ↔
    (∃ d ∈ f.home :: f.workingDirectory :: f.directories, place <+: d) ∨
      ∃ entry ∈ f.entries, place <+: entry.1 ∧ place ≠ entry.1 := by
  unfold leadsOn
  simp only [Bool.or_eq_true, List.any_eq_true, List.isPrefixOf_iff_prefix, Bool.and_eq_true,
    decide_eq_true_eq]

/-- Following one name from a directory. -/
theorem follow_cons_eq_ok {f : Files} {place found : Place} {name : String} {names : List String} :
    f.follow place (name :: names) = .ok found ↔ f.kindAt place = some .directory ∧
      name.utf8ByteSize ≤ maxNameLength ∧ f.follow (step place name) names = .ok found := by
  rw [follow]
  split
  · next h => simp [h]
  · next h => simp [h]
  · next h =>
    split
    · next hlong => simp [h, Nat.not_le.mpr hlong]
    · next hlong => simp [h, Nat.not_lt.mp hlong]

/-- A path that leads somewhere leads where its names say. -/
theorem eq_foldl_of_follow {f : Files} {place found : Place} {names : List String}
    (h : f.follow place names = .ok found) : found = names.foldl step place := by
  induction names generalizing place with
  | nil =>
    cases h
    rfl
  | cons name names ih => exact ih (follow_cons_eq_ok.mp h).2.2

/-- Following names and then one more. -/
theorem follow_concat_eq_ok {f : Files} {place found : Place} {names : List String}
    {name : String} : f.follow place (names ++ [name]) = .ok found ↔
      ∃ parent, f.follow place names = .ok parent ∧ f.kindAt parent = some .directory ∧
        name.utf8ByteSize ≤ maxNameLength ∧ found = step parent name := by
  induction names generalizing place with
  | nil =>
    rw [List.nil_append, follow_cons_eq_ok]
    constructor
    · rintro ⟨hdir, hname, hfound⟩
      cases hfound
      exact ⟨place, rfl, hdir, hname, rfl⟩
    · rintro ⟨parent, hparent, hdir, hname, rfl⟩
      cases hparent
      exact ⟨hdir, hname, rfl⟩
  | cons first names ih =>
    rw [List.cons_append, follow_cons_eq_ok, ih]
    constructor
    · rintro ⟨hdir, hname, parent, hparent, hrest⟩
      exact ⟨parent, follow_cons_eq_ok.mpr ⟨hdir, hname, hparent⟩, hrest⟩
    · rintro ⟨parent, hparent, hrest⟩
      obtain ⟨hdir, hname, hfollow⟩ := follow_cons_eq_ok.mp hparent
      exact ⟨hdir, hname, parent, hfollow, hrest⟩

/-- A path leads where it led, as long as directories stay directories. -/
theorem follow_of_directories {f g : Files}
    (h : ∀ d, f.kindAt d = some .directory → g.kindAt d = some .directory) {place found : Place}
    {names : List String} (hf : f.follow place names = .ok found) :
    g.follow place names = .ok found := by
  induction names generalizing place with
  | nil => exact hf
  | cons name names ih =>
    obtain ⟨hdir, hname, hrest⟩ := follow_cons_eq_ok.mp hf
    exact follow_cons_eq_ok.mpr ⟨h _ hdir, hname, ih hrest⟩

theorem locate_eq_ok {f : Files} {p : Path} {place : Place} (h : f.locate p = .ok place) :
    p.write.toList.contains '\x00' = false ∧ p.write.utf8ByteSize ≤ maxPathLength ∧
      f.follow (f.start p) p.names = .ok place := by
  unfold locate at h
  split at h
  · cases h
  split at h
  · cases h
  · next hnull hlong =>
    refine ⟨by simpa using hnull, Nat.not_lt.mp hlong, ?_⟩
    cases hfollow : f.follow (f.start p) p.names with
    | error e =>
      rw [hfollow] at h
      cases h
    | ok found =>
      rw [hfollow] at h
      cases h
      rfl

theorem locate_of_follow {f : Files} {p : Path} {place : Place}
    (hnull : p.write.toList.contains '\x00' = false) (hlong : p.write.utf8ByteSize ≤ maxPathLength)
    (h : f.follow (f.start p) p.names = .ok place) : f.locate p = .ok place := by
  unfold locate
  rw [hnull, if_neg Bool.false_ne_true, if_neg (Nat.not_lt.mpr hlong), h]
  rfl

/-! ### Making directories -/

/-- Files with more directories than others. -/
def WithDirectories (f g : Files) : Prop :=
  ∃ made, g = { f with directories := made ++ f.directories }

theorem WithDirectories.refl (f : Files) : WithDirectories f f := ⟨[], rfl⟩

theorem WithDirectories.trans {f g k : Files} (h : WithDirectories f g) (h' : WithDirectories g k) :
    WithDirectories f k := by
  obtain ⟨made, rfl⟩ := h
  obtain ⟨more, rfl⟩ := h'
  exact ⟨more ++ made, by rw [List.append_assoc]⟩

theorem WithDirectories.at? {f g : Files} (h : WithDirectories f g) (place : Place) :
    g.at? place = f.at? place := by
  obtain ⟨made, rfl⟩ := h
  rfl

theorem WithDirectories.start {f g : Files} (h : WithDirectories f g) (p : Path) :
    g.start p = f.start p := by
  obtain ⟨made, rfl⟩ := h
  rfl

theorem makeDirectory_eq_ok {f g : Files} {p : Path} (h : f.makeDirectory p = .ok g) :
    WithDirectories f g := by
  unfold makeDirectory at h
  rcases hlocate : f.locate p with e | place
  · rw [hlocate] at h
    cases h
  · rw [hlocate] at h
    by_cases hthere : (f.kindAt place).isSome = true
    · simp only [bind, Except.bind, if_pos hthere] at h
      cases h
    · simp only [bind, Except.bind, if_neg hthere] at h
      cases h
      exact ⟨[place], rfl⟩

theorem ensureDirectory_eq_ok {f g : Files} {p : Path} (h : f.ensureDirectory p = .ok g) :
    WithDirectories f g := by
  unfold ensureDirectory at h
  split at h
  · next hmade =>
    cases h
    exact makeDirectory_eq_ok hmade
  · split at h
    · split at h
      · cases h
        exact .refl f
      · cases h
    · cases h
  · cases h

theorem ensureAlong_eq_ok {f g : Files} {slashes : Nat} {reversed : List String}
    (h : f.ensureAlong slashes reversed = .ok g) : WithDirectories f g := by
  induction reversed generalizing f g with
  | nil => exact ensureDirectory_eq_ok h
  | cons name before ih =>
    unfold ensureAlong at h
    dsimp only at h
    split at h
    · split at h
      · rcases halong : f.ensureAlong slashes before with e | k
        · rw [halong] at h
          cases h
        · rw [halong] at h
          exact (ih halong).trans (ensureDirectory_eq_ok h)
      · exact ensureDirectory_eq_ok h
    · exact ensureDirectory_eq_ok h

/-! ### Replacing -/

/-- How a file was replaced: what was made beside it, in the same directory, went over it. -/
structure Replacement (f : Files) (p : Path) (text : String) (g : Files) (ready : Files)
    (parent : Place) (name : String) : Prop where
  ready_eq : WithDirectories f ready
  locate_eq : ready.locate p = .ok (parent ++ [name])
  not_directory : ready.kindAt (parent ++ [name]) ≠ some .directory
  files_eq : g = (ready.remove (parent ++ [name ++ ".tmp"])).put (parent ++ [name]) ⟨text, []⟩

theorem step_of_ne {name : String} (h : name ≠ "..") (place : Place) :
    step place name = place ++ [name] :=
  if_neg h

/-- A name that goes beside another is no step back. -/
theorem append_tmp_ne (name : String) : name ++ ".tmp" ≠ ".." := by
  intro h
  have hlen := congrArg String.length h
  rw [String.length_append] at hlen
  have htmp : ".tmp".length = 4 := by decide
  have hdots : "..".length = 2 := by decide
  omega

theorem writable_eq_ok {f : Files} {p : Path} {place : Place} (h : f.writable p = .ok place) :
    f.locate p = .ok place := by
  unfold writable at h
  rcases hlocate : f.locate p with e | found
  · rw [hlocate] at h
    cases h
  · rw [hlocate] at h
    by_cases hdir : f.kindAt found = some .directory
    · simp only [bind, Except.bind, if_pos hdir] at h
      cases h
    · simp only [bind, Except.bind, if_neg hdir] at h
      cases h
      rfl

theorem replaceable_eq_ok {f : Files} {p : Path} {place : Place} (h : f.replaceable p = .ok place) :
    f.locate p = .ok place ∧ p.name? ≠ some ".." ∧ f.kindAt place ≠ some .directory := by
  unfold replaceable at h
  rcases hlocate : f.locate p with e | found
  · rw [hlocate] at h
    cases h
  · rw [hlocate] at h
    by_cases hdots : p.name? = some ".."
    · simp only [bind, Except.bind, if_pos hdots] at h
      cases h
    · by_cases hdir : f.kindAt found = some .directory
      · simp only [bind, Except.bind, if_neg hdots, if_pos hdir] at h
        cases h
      · simp only [bind, Except.bind, if_neg hdots, if_neg hdir] at h
        cases h
        exact ⟨rfl, hdots, hdir⟩

/-- **A path and the one beside it lead to places in the same directory.** -/
theorem locate_beside {f : Files} {p : Path} {name : String} {place beside : Place}
    (hname : p.name? = some name) (hdots : name ≠ "..") (h : f.locate p = .ok place)
    (hbeside : f.locate (p.withSuffix ".tmp") = .ok beside) :
    ∃ parent, place = parent ++ [name] ∧ beside = parent ++ [name ++ ".tmp"] := by
  obtain ⟨-, -, hfollow⟩ := locate_eq_ok h
  obtain ⟨-, -, hfollow'⟩ := locate_eq_ok hbeside
  have hsuffix : (p.withSuffix ".tmp").names = p.names.dropLast ++ [name ++ ".tmp"] := by
    unfold Path.withSuffix
    rw [hname]
    rfl
  have hstart : f.start (p.withSuffix ".tmp") = f.start p := rfl
  rw [← List.dropLast_append_getLast? name hname, follow_concat_eq_ok] at hfollow
  rw [hsuffix, hstart, follow_concat_eq_ok] at hfollow'
  obtain ⟨parent, hparent, -, -, hstep⟩ := hfollow
  obtain ⟨parent', hparent', -, -, hstep'⟩ := hfollow'
  obtain rfl : parent' = parent := Except.ok.inj (hparent'.symm.trans hparent)
  rw [step_of_ne hdots] at hstep
  rw [step_of_ne (append_tmp_ne name)] at hstep'
  exact ⟨parent', hstep, hstep'⟩

/-- **What replacing a file does.** -/
theorem replace_eq_ok {f g : Files} {p : Path} {text : String}
    (h : f.replace p text = (.ok (), g)) :
    ∃ ready parent name, Replacement f p text g ready parent name := by
  unfold replace at h
  rcases hready : f.ensureParent p with e | ready
  · rw [hready] at h
    cases h
  rw [hready] at h
  dsimp only at h
  split at h
  · cases h
  next hsome =>
  obtain ⟨name, hname⟩ : ∃ name, p.name? = some name := by
    cases hlast : p.name? with
    | none => exact absurd (by rw [hlast]; rfl) hsome
    | some name => exact ⟨name, rfl⟩
  split at h
  · cases h
  next beside hbeside =>
  split at h
  · cases h
  next place hplace =>
  obtain ⟨hlocate, hdots, hdir⟩ := replaceable_eq_ok hplace
  have hnotdots : name ≠ ".." := by
    rintro rfl
    exact hdots hname
  obtain ⟨parent, rfl, rfl⟩ :=
    locate_beside hname hnotdots hlocate (writable_eq_ok hbeside)
  cases h
  exact ⟨ready, parent, name, {
    ready_eq := ensureAlong_eq_ok hready
    locate_eq := hlocate
    not_directory := hdir
    files_eq := rfl }⟩

section

variable {f g ready : Files} {p : Path} {text name : String} {parent : Place}

/-- What was a directory still is one. -/
theorem Replacement.kindAt (r : Replacement f p text g ready parent name) {d : Place}
    (h : ready.kindAt d = some .directory) : g.kindAt d = some .directory := by
  have hne : d ≠ parent ++ [name] := by
    rintro rfl
    exact r.not_directory h
  obtain ⟨hnone, hleads⟩ := kindAt_eq_directory_iff.mp h
  rw [r.files_eq, kindAt_eq_directory_iff, at?_put_of_ne _ _ hne]
  constructor
  · by_cases hbeside : d = parent ++ [name ++ ".tmp"]
    · rw [hbeside, at?_remove_self]
    · rw [at?_remove_of_ne _ hbeside, hnone]
  · rw [leadsOn_iff] at hleads ⊢
    rcases hleads with hknown | ⟨entry, hmem, hprefix, hshort⟩
    · exact .inl hknown
    -- a file that the directory leads on to is still there, or it went over the old one
    refine .inr ?_
    by_cases hplace : entry.1 = parent ++ [name] ∨ entry.1 = parent ++ [name ++ ".tmp"]
    · obtain ⟨last, hlast⟩ : ∃ last, entry.1 = parent ++ [last] := hplace.elim (⟨_, ·⟩) (⟨_, ·⟩)
      rw [hlast] at hprefix hshort
      have hparent : d <+: parent := (List.prefix_concat_iff.mp hprefix).resolve_left hshort
      exact ⟨(parent ++ [name], ⟨text, []⟩), List.mem_append_right _ (List.mem_singleton.mpr rfl),
        hparent.trans (List.prefix_append _ _), hne⟩
    · obtain ⟨hno, hno'⟩ := not_or.mp hplace
      have hkept : entry ∈ (ready.remove (parent ++ [name ++ ".tmp"])).entries :=
        List.mem_filter.mpr ⟨hmem, by simpa using hno'⟩
      exact ⟨entry, List.mem_append_left _ (List.mem_filter.mpr ⟨hkept, by simpa using hno⟩),
        hprefix, hshort⟩

/-- The names of the path lead to the place of the file. -/
theorem Replacement.place_eq (r : Replacement f p text g ready parent name) :
    p.names.foldl step (f.start p) = parent ++ [name] := by
  obtain ⟨-, -, hfollow⟩ := locate_eq_ok r.locate_eq
  rw [eq_foldl_of_follow hfollow, r.ready_eq.start]

/-- The path still leads to the place of the file. -/
theorem Replacement.locate (r : Replacement f p text g ready parent name) :
    g.locate p = .ok (parent ++ [name]) := by
  obtain ⟨hnull, hlong, hfollow⟩ := locate_eq_ok r.locate_eq
  have hstart : g.start p = ready.start p := by
    rw [r.files_eq]
    rfl
  refine locate_of_follow hnull hlong ?_
  rw [hstart]
  exact follow_of_directories (fun _ => r.kindAt) hfollow

end

/-- **A file that was replaced is at its place.** -/
theorem at?_replace {f g : Files} {p : Path} {text : String}
    (h : f.replace p text = (.ok (), g)) :
    g.at? (p.names.foldl step (f.start p)) = some ⟨text, []⟩ := by
  obtain ⟨ready, parent, name, r⟩ := replace_eq_ok h
  rw [r.place_eq, r.files_eq, at?_put_self]

/-- **A file that was replaced is read** with its new text, in which line endings are line feeds. -/
theorem read_replace {f g : Files} {p : Path} {text : String}
    (h : f.replace p text = (.ok (), g)) :
    g.read p = .ok (String.ofList (Text.unifyNewlines text.toList)) := by
  obtain ⟨ready, parent, name, r⟩ := replace_eq_ok h
  have hplace := at?_replace h
  rw [r.place_eq] at hplace
  unfold read
  rw [r.locate]
  dsimp only
  rw [hplace]

/-- Replacing a file does not change where paths start. -/
theorem start_replace {f g : Files} {p : Path} {text : String}
    (h : f.replace p text = (.ok (), g)) (q : Path) : g.start q = f.start q := by
  obtain ⟨ready, parent, name, r⟩ := replace_eq_ok h
  rw [← r.ready_eq.start q, r.files_eq]
  rfl

end Files

end PrefixDelegation
