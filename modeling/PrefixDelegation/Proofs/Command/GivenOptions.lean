import PrefixDelegation.Command.Line
import PrefixDelegation.Proofs.Command.Acts
import PrefixDelegation.Proofs.Traversal

/-!
# How a command is called

Between the arguments of a command line and what a command does stand the options of the program,
the settings, the log, and the form of the arguments. Where the settings settle and name a level, and
the arguments can be taken apart without anything being wrong with them, all of this comes to the
command itself (`run_perform`).

Options can be written in many ways. `spell` is one that works for every value, an empty one and one
that looks like an option included (`scan_spell`).
-/

namespace PrefixDelegation

/-- Settings that are settled stay as they are. -/
theorem Preferences.settle_settle {p p' : Preferences} {f : Files} {s : Settings}
    (h : p.settle f = (.ok s, p')) (f' : Files) : p'.settle f' = (.ok s, p') := by
  have hkept : p'.settings = some s := by
    unfold settle at h
    split at h
    · next settings hsettings =>
      cases h
      exact hsettings
    · split at h
      · cases h
      · split at h
        · cases h
          rfl
        · cases h
  unfold settle
  rw [hkept]

namespace Command

open Act

variable {forms : List OptionForm} {operandsEnd : Bool} {σ α : Type}

/-! ### Taking arguments apart -/

/-- An option and its value, as two arguments, if there is a value. -/
def spell (name : String) (value : Option String) : List String := value.elim [] fun v => [name, v]

/-- **An option is taken apart as it was spelled**, whatever its value looks like. -/
theorem scan_spell {name : String} {form : OptionForm} (hname : name ≠ "--")
    (hoption : isOption name = true) (hread : readOption forms name = .ok ⟨[], some (form, name)⟩)
    (value : Option String) (rest : List String) :
    scan forms operandsEnd (spell name value ++ rest)
      = (scan forms operandsEnd rest).map
        fun s => { s with given := (value.map (GivenOption.mk form)).toList ++ s.given } := by
  cases value with
  | none =>
    change scan forms operandsEnd rest = _
    rcases scan forms operandsEnd rest with e | s <;> rfl
  | some v =>
    change scan forms operandsEnd (name :: v :: rest) = _
    rw [scan, if_neg hname, if_pos hoption, hread]
    rfl

/-- What an argument says is about options of the command. -/
def OptionArgument.IsAmong (forms : List OptionForm) (found : OptionArgument) : Prop :=
  (∀ o ∈ found.given, o.form ∈ forms) ∧ ∀ waiting ∈ found.waiting, waiting.1 ∈ forms

/-- Nothing was found but a name that waits for its value. -/
theorem isAmong_waiting {form : OptionForm} (h : form ∈ forms) (name : String) :
    OptionArgument.IsAmong forms ⟨[], some (form, name)⟩ := by
  refine ⟨fun o ho => absurd ho List.not_mem_nil, fun waiting hwaiting => ?_⟩
  rwa [← Option.some.inj hwaiting]

/-- Nothing was found but an option with its value. -/
theorem isAmong_given {form : OptionForm} (h : form ∈ forms) (value : String) :
    OptionArgument.IsAmong forms ⟨[⟨form, value⟩], none⟩ := by
  refine ⟨fun o ho => ?_, fun waiting hwaiting => by cases hwaiting⟩
  rwa [List.mem_singleton.mp ho]

/-- Letters stand for options of the command. -/
theorem isAmong_of_readLetters {letters : List Char} {found : OptionArgument}
    (h : readLetters forms letters = .ok found) : found.IsAmong forms := by
  induction letters generalizing found with
  | nil =>
    cases h
    exact ⟨fun o ho => absurd ho List.not_mem_nil, fun waiting hwaiting => by cases hwaiting⟩
  | cons letter rest ih =>
    rw [readLetters] at h
    split at h
    · cases h
    next form hform =>
    have hmem : form ∈ forms := List.mem_of_find?_eq_some hform
    split at h
    · -- a flag, and what the letters behind it say
      obtain ⟨more, hmore, hfound⟩ := bind_eq_ok_iff.mp h
      cases hfound
      obtain ⟨hgiven, hwaiting⟩ := ih hmore
      exact ⟨List.forall_mem_cons.mpr ⟨hmem, hgiven⟩, hwaiting⟩
    split at h
    · cases h
      exact isAmong_waiting hmem _
    · cases h
      exact isAmong_given hmem _

/-- So does a long name. -/
theorem isAmong_of_readLong {argument : List Char} {found : OptionArgument}
    (h : readLong forms argument = .ok found) : found.IsAmong forms := by
  unfold readLong at h
  dsimp only at h
  split at h
  · cases h
  next form hform =>
  have hmem : form ∈ forms := List.mem_of_find?_eq_some hform
  split at h
  · split at h
    · cases h
    · cases h
      exact isAmong_given hmem _
  split at h
  · cases h
    exact isAmong_given hmem _
  · cases h
    exact isAmong_waiting hmem _

theorem isAmong_of_readOption {argument : String} {found : OptionArgument}
    (h : readOption forms argument = .ok found) : found.IsAmong forms := by
  unfold readOption at h
  split at h
  · exact isAmong_of_readLong h
  · exact isAmong_of_readLetters h

/-- Options that are added in front are those that were there, and others. -/
theorem given_foldr_addOption (given : List GivenOption) (s : Scanned) :
    (given.foldr Scanned.addOption s).given = given ++ s.given := by
  induction given with
  | nil => rfl
  | cons o given ih => exact congrArg (o :: ·) ih

/-- **Arguments are taken apart into options of the command.** -/
theorem form_mem_of_scan {arguments : List String} {s : Scanned}
    (h : scan forms operandsEnd arguments = .ok s) : ∀ o ∈ s.given, o.form ∈ forms := by
  -- an option may take the argument behind it, so the induction follows the scanner
  fun_induction scan forms operandsEnd arguments generalizing s with
  | case1 | case2 | case7 =>
    -- nothing is left to be taken apart
    cases h
    exact fun o ho => absurd ho List.not_mem_nil
  | case3 | case5 => cases h
  | case4 argument rest _ _ given hread ih =>
    obtain ⟨s', hs', rfl⟩ := map_eq_ok_iff.mp h
    rw [given_foldr_addOption]
    intro o ho
    exact (List.mem_append.mp ho).elim ((isAmong_of_readOption hread).1 o) (ih hs' o)
  | case6 argument _ _ given form name hread value rest ih =>
    obtain ⟨s', hs', rfl⟩ := map_eq_ok_iff.mp h
    obtain ⟨hgiven, hwaiting⟩ := isAmong_of_readOption hread
    rw [given_foldr_addOption]
    intro o ho
    rcases List.mem_append.mp ho with ho | ho
    · exact hgiven o ho
    rcases List.mem_cons.mp ho with rfl | ho
    · exact hwaiting _ rfl
    · exact ih hs' o ho
  | case8 argument rest _ _ _ ih =>
    obtain ⟨s', hs', rfl⟩ := map_eq_ok_iff.mp h
    have hrest := ih hs'
    exact hrest

/-! ### From the command line to the command -/

/-- Text options and flags accept whatever they are given. -/
theorem objections_eq_nil {s : Scanned} (files : Files)
    (h : ∀ o ∈ s.given, o.form.value = .flag ∨ o.form.value = .text) : s.objections files = [] := by
  refine List.filterMap_eq_nil_iff.mpr fun o ho => ?_
  unfold Scanned.objection?
  rcases h o ho with hkind | hkind
  · rw [hkind]
  · rw [hkind]

/-- The name of a command is not taken for an option of the program. -/
theorem run_readProgramOptions (c : CommandName) (arguments : List String) (w : Work σ) :
    (readProgramOptions (c.text :: arguments)).run w = (.ok (c.text :: arguments), w) := by
  have hscan : scan programForms true (c.text :: arguments) = .ok ⟨[], c.text :: arguments⟩ := by
    cases c <;> rfl
  unfold readProgramOptions
  rw [hscan]
  rfl

/-- A command is found by its name. -/
theorem run_readCommand (c : CommandName) (arguments : List String) (w : Work σ) :
    (readCommand (c.text :: arguments)).run w = (.ok (c, arguments), w) := by
  cases c <;> rfl

/-- The work of a command whose settings are settled and whose log is set up. -/
def Work.prepared (w : Work σ) (threshold : Level) : Work σ :=
  { w with shell := { w.shell with
      preferences := (w.shell.preferences.settle w.shell.files).2
      log := ⟨threshold, some threshold, none⟩ } }

variable {settled : Settings} {threshold : Level}

/-- Settings that name a level are all that the log needs. -/
theorem run_prepare {w : Work σ}
    (hsettled : (w.shell.preferences.settle w.shell.files).1 = .ok settled)
    (hlevel : Level.ofName? settled.logLevel = some threshold) :
    prepare.run w = (.ok (), w.prepared threshold) := by
  -- without a file the log leaves the files alone
  have hlog : ∀ f, Log.setUp (.brief false false settled.logLevel none) f
      = (.ok ⟨threshold, some threshold, none⟩, f) := by
    intro f
    unfold Log.setUp LogRequest.brief
    rw [if_neg Bool.false_ne_true, hlevel]
    rfl
  unfold prepare setUpLog
  simp only [run_bind, run_settings_of_ok hsettled, run_get, run_modifyShell, hlog, run_pure]
  rfl

/-- **A command line comes to its command**, if nothing is wrong with the settings or with the
arguments. -/
theorem run_perform {c : CommandName} {arguments : List String} {s : Scanned} {w : Work Network}
    (hsettled : (w.shell.preferences.settle w.shell.files).1 = .ok settled)
    (hlevel : Level.ofName? settled.logLevel = some threshold)
    (hscan : scan c.forms false arguments = .ok s) (hhelp : s.has "--help" = false)
    (hnone : s.objections w.shell.files ++ operandObjections c w.shell.files s.operands = []) :
    (perform (c.text :: arguments)).run w = (c.perform s).run (w.prepared threshold) := by
  have hstart : (c.start arguments).run (w.prepared threshold)
      = (c.perform s).run (w.prepared threshold) := by
    have hasked : ¬ s.has "--help" = true := by rw [hhelp]; exact Bool.false_ne_true
    unfold CommandName.start
    rw [hscan, orUsage, pure_bind]
    dsimp only
    rw [if_neg hasked, run_bind_of_ok (run_get _)]
    -- preparing left the files alone, so the objections are those to the files before
    change (orFirst (s.objections w.shell.files ++ operandObjections c w.shell.files s.operands)
      >>= fun _ => c.perform s).run _ = _
    rw [hnone]
    rfl
  unfold perform
  rw [if_neg (by simp)]
  simp only [run_bind, run_readProgramOptions, run_readCommand, run_prepare hsettled hlevel, hstart]

/-- A command that comes to its end without a run leaves with status zero. -/
theorem outcome_of_perform {arguments : List String} {w w' : Work Network}
    (h : (perform arguments).run w = (.ok none, w')) (sleeper : Sleeper) (sleeps : Nat) :
    outcome arguments w sleeper sleeps = (.exit 0, w') := by
  unfold outcome begin
  rw [h]

end Command

end PrefixDelegation
