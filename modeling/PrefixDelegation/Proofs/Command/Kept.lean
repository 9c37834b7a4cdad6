import PrefixDelegation.Proofs.Command.Opening
import PrefixDelegation.Proofs.Files.Replaced

/-!
# What is kept at a path

A program that keeps leases at a path does two things with its files: it puts a lease in the place of
the file, and it writes records into its log. A record goes behind the text of the log's own file, and
no other file notices (`Shell.Logged`). So what stands at the path is the lease that was put there
last, or what stood there before there was one (`Shell.Keeps`). Both are relations of what was and
what is, and they can be put together (`Shell.Keeps.trans`).
-/

namespace PrefixDelegation

namespace Files

/-- The place that a path names, whether it leads there or not. -/
def placeOf (f : Files) (p : Path) : Place := p.names.foldl step (f.start p)

/-- The text of the file at a place. -/
def textAt (f : Files) (place : Place) : Option String := (f.at? place).map (·.text)

theorem lookup_map_content (change : Place → FileContent → FileContent)
    (entries : List (Place × FileContent)) (place : Place) :
    (entries.map fun entry => (entry.1, change entry.1 entry.2)).lookup place
      = (entries.lookup place).map (change place) := by
  induction entries with
  | nil => rfl
  | cons entry entries ih =>
    obtain ⟨here, content⟩ := entry
    rw [List.map_cons, List.lookup_cons, List.lookup_cons, ih]
    by_cases h : place = here
    · subst h
      simp
    · have hbeq : (place == here) = false := beq_eq_false_iff_ne.mpr h
      rw [hbeq]

/-- A record goes behind what the file of the log holds. -/
theorem at?_append (f : Files) (place : Place) (r : Record) (other : Place) :
    (f.append place r).at? other = (f.at? other).map fun content =>
      if other = place then { content with records := content.records ++ [r] } else content := by
  refine Eq.trans (congrArg (List.lookup other) (List.map_congr_left fun entry _ => ?_))
    (lookup_map_content (fun here content =>
      if here = place then { content with records := content.records ++ [r] } else content)
      f.entries other)
  dsimp only
  split
  · rfl
  · rfl

theorem textAt_append (f : Files) (place : Place) (r : Record) (other : Place) :
    (f.append place r).textAt other = f.textAt other := by
  unfold textAt
  rw [at?_append, Option.map_map]
  congr 1
  ext content
  dsimp only [Function.comp_apply]
  split
  · rfl
  · rfl

theorem at?_append_of_ne (f : Files) {place other : Place} (r : Record) (h : other ≠ place) :
    (f.append place r).at? other = f.at? other := by
  rw [at?_append]
  simp only [if_neg h, Option.map_id']

end Files

namespace Command

/-! ### Records -/

/-- A shell that has written records: the file of its log may hold more of them, and no other file is
changed, nor the text of any. -/
structure Shell.Logged (before after : Shell) : Prop where
  log_eq : after.log = before.log
  start_eq : ∀ p, after.files.start p = before.files.start p
  text_eq : ∀ place, after.files.textAt place = before.files.textAt place
  content_eq : ∀ place, before.log.file ≠ some place →
    after.files.at? place = before.files.at? place

namespace Shell.Logged

variable {s s' s'' : Shell}

/-- Nothing is written. -/
theorem of_eq (hlog : s'.log = s.log) (hfiles : s'.files = s.files) : s.Logged s' :=
  ⟨hlog, fun _ => by rw [hfiles], fun _ => by rw [hfiles], fun _ _ => by rw [hfiles]⟩

theorem trans (h : s.Logged s') (h' : s'.Logged s'') : s.Logged s'' where
  log_eq := h'.log_eq.trans h.log_eq
  start_eq p := (h'.start_eq p).trans (h.start_eq p)
  text_eq place := (h'.text_eq place).trans (h.text_eq place)
  content_eq place hne :=
    (h'.content_eq place (h.log_eq.symm ▸ hne)).trans (h.content_eq place hne)

theorem record (s : Shell) (r : Record) : s.Logged (s.record r) := by
  have hfiles : (s.record r).files = s.log.write s.files r := rfl
  unfold Log.write at hfiles
  split at hfiles
  · exact of_eq rfl hfiles
  next place hplace =>
    split at hfiles
    · refine ⟨rfl, fun p => ?_, fun other => ?_, fun other hne => ?_⟩
      · rw [hfiles]
        rfl
      · rw [hfiles, Files.textAt_append]
      · rw [hfiles, Files.at?_append_of_ne]
        rintro rfl
        exact hne hplace
    · exact of_eq rfl hfiles

theorem records (journal : Journal) (s : Shell) : s.Logged (journal.foldl Shell.record s) := by
  induction journal generalizing s with
  | nil => exact of_eq rfl rfl
  | cons r journal ih => exact (record s r).trans (ih (s.record r))

end Shell.Logged

/-! ### Leases -/

/-- A shell that has kept leases at a path: the last of them is the text at its place, or, if there is
none, what was there before. Apart from the log, which goes on behind the text of its file, the whole
file is like that. -/
structure Shell.Keeps (p : Path) (before : Shell) (granted : List Lease) (after : Shell) :
    Prop where
  log_eq : after.log = before.log
  start_eq : ∀ p, after.files.start p = before.files.start p
  text_eq : after.files.textAt (before.files.placeOf p) =
    (granted.getLast?.map Lease.fileContent).or (before.files.textAt (before.files.placeOf p))
  content_eq : before.log.file ≠ some (before.files.placeOf p) →
    after.files.at? (before.files.placeOf p) =
      (granted.getLast?.map fun l => ⟨l.fileContent, []⟩).or
        (before.files.at? (before.files.placeOf p))

namespace Shell.Keeps

variable {p : Path} {s s' s'' : Shell} {granted more : List Lease}

/-- Records keep what was kept. -/
theorem of_logged (h : s.Logged s') : s.Keeps p [] s' where
  log_eq := h.log_eq
  start_eq := h.start_eq
  text_eq := h.text_eq _
  content_eq := h.content_eq _

/-- A lease was put in its place. -/
theorem of_save {l : Lease} {files : Files} (h : l.save s.files p = (.ok (), files)) :
    s.Keeps p [l] { s with files } := by
  have hplace : files.at? (s.files.placeOf p) = some ⟨l.fileContent, []⟩ := Files.at?_replace h
  refine ⟨rfl, Files.start_replace h, ?_, fun _ => hplace⟩
  unfold Files.textAt
  rw [hplace]
  rfl

/-- What was kept first is kept until something else is. -/
theorem trans (h : s.Keeps p granted s') (h' : s'.Keeps p more s'') :
    s.Keeps p (granted ++ more) s'' := by
  -- the path names the same place before and after
  have hplace : s'.files.placeOf p = s.files.placeOf p := by
    unfold Files.placeOf
    rw [h.start_eq]
  refine ⟨h'.log_eq.trans h.log_eq, fun q => (h'.start_eq q).trans (h.start_eq q), ?_, fun hne => ?_⟩
  · have htext := h'.text_eq
    rw [hplace, h.text_eq, ← Option.or_assoc] at htext
    rw [htext, List.getLast?_append, Option.map_or]
  · have hcontent := h'.content_eq (by rwa [hplace, h.log_eq])
    rw [hplace, h.content_eq hne, ← Option.or_assoc] at hcontent
    rw [hcontent, List.getLast?_append, Option.map_or]

end Shell.Keeps

end Command

end PrefixDelegation
