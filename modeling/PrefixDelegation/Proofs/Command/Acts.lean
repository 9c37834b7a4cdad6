import PrefixDelegation.Command.Basic

/-!
# Carrying out commands

What an action gives and leaves behind when it is carried out on some work. Actions that follow each
other are carried out one after the other, as long as none of them ends the program (`Act.run_bind`);
the rest says of each basic action what it does. Commands are followed step by step with these laws,
and no proof about a command unfolds the layers that actions are made of.
-/

namespace PrefixDelegation.Command

variable {σ α β : Type}

/-! ### The layers of an action -/

namespace Act

@[simp] theorem run_pure (a : α) (w : Work σ) : (pure a : Act σ α).run w = (.ok a, w) := rfl

@[simp] theorem run_throw (e : Ending) (w : Work σ) :
    (throw e : Act σ α).run w = (.error e, w) := rfl

@[simp] theorem run_get (w : Work σ) : (get : Act σ (Work σ)).run w = (.ok w, w) := rfl

@[simp] theorem run_modify (f : Work σ → Work σ) (w : Work σ) :
    (modify f : Act σ Unit).run w = (.ok (), f w) := rfl

/-- **One action after the other.** The second is only carried out if the first does not end the
program. -/
theorem run_bind (x : Act σ α) (f : α → Act σ β) (w : Work σ) :
    (x >>= f).run w = match x.run w with
      | (.ok a, w') => (f a).run w'
      | (.error e, w') => (.error e, w') := by
  change (match x.run w with | (result, w') => ExceptT.bindCont f result w') = _
  rcases x.run w with ⟨e | a, w'⟩
  · rfl
  · rfl

variable {x : Act σ α} {f : α → Act σ β} {w w' : Work σ}

theorem run_bind_of_ok {a : α} (h : x.run w = (.ok a, w')) :
    (x >>= f).run w = (f a).run w' := by
  rw [run_bind, h]

theorem run_bind_of_error {e : Ending} (h : x.run w = (.error e, w')) :
    (x >>= f).run w = (.error e, w') := by
  rw [run_bind, h]

/-- Two actions that come to a value: so does the first, and the second after it. -/
theorem run_bind_eq_ok {b : β} : (x >>= f).run w = (.ok b, w') ↔
    ∃ a between, x.run w = (.ok a, between) ∧ (f a).run between = (.ok b, w') := by
  constructor
  · intro h
    rw [run_bind] at h
    rcases hx : x.run w with ⟨e | a, between⟩
    · rw [hx] at h
      cases h
    · rw [hx] at h
      exact ⟨a, between, rfl, h⟩
  · rintro ⟨a, between, hx, hf⟩
    rw [run_bind_of_ok hx, hf]

end Act

open Act

/-! ### The shell -/

@[simp] theorem run_exit (status : Nat) (w : Work σ) :
    (exit status : Act σ α).run w = (.error (.exit status), w) := rfl

@[simp] theorem run_modifyShell (f : Shell → Shell) (w : Work σ) :
    (modifyShell f).run w = (.ok (), { w with shell := f w.shell }) := rfl

@[simp] theorem run_orCrash (x : Except Fault α) (w : Work σ) :
    (orCrash x).run w = (x.mapError .crash, w) := by
  cases x with
  | error fault => rfl
  | ok a => rfl

@[simp] theorem run_say (text : String) (w : Work σ) : (say text).run w =
    (.ok (), { w with shell := { w.shell with output := w.shell.output ++ [text] } }) := rfl

@[simp] theorem run_record (journal : Journal) (w : Work σ) : (record journal).run w =
    (.ok (), { w with shell := journal.foldl Shell.record w.shell }) := rfl

/-- What there is to say is said, if nothing is wrong with its markup. -/
theorem run_tell (style text : String) (w : Work σ) : (tell style text).run w =
    match onConsole style text with
    | .ok shown => (.ok (), { w with shell :=
        { w.shell with notices := w.shell.notices ++ [.plain shown] } })
    | .error fault => (.error (.crash fault), w) := by
  unfold tell
  rw [run_bind, run_orCrash]
  rcases onConsole style text with fault | shown <;> rfl

/-- The settings are taken from the preferences, which may be settled with that. -/
theorem run_settings (w : Work σ) : (settings : Act σ Settings).run w =
    ((w.shell.preferences.settle w.shell.files).1.mapError .crash,
      { w with shell := { w.shell with
        preferences := (w.shell.preferences.settle w.shell.files).2 } }) := by
  unfold settings
  simp only [run_bind, run_get, run_modifyShell, run_orCrash]

theorem run_settings_of_ok {w : Work σ} {settled : Settings}
    (h : (w.shell.preferences.settle w.shell.files).1 = .ok settled) :
    (settings : Act σ Settings).run w = (.ok settled, { w with shell := { w.shell with
      preferences := (w.shell.preferences.settle w.shell.files).2 } }) := by
  rw [run_settings, h]
  rfl

/-! ### Sessions and leases -/

theorem run_onSession (f : Session Host → α × Session Host) (w : Work (Session Host)) :
    (onSession f).run w = (.ok (f w.net).1,
      ⟨(f w.net).2.journal.foldl Shell.record w.shell, { (f w.net).2 with journal := [] }⟩) :=
  rfl

/-- Something was done with a session, and the session was closed. -/
theorem run_withSession (session : Session Host) (act : Act (Session Host) α) (w : Work Network) :
    (withSession session act).run w =
      ((act.run ⟨w.shell, session⟩).1, (act.run ⟨w.shell, session⟩).2.closed) :=
  rfl

@[simp] theorem run_saveLease_none (l : Lease) (w : Work σ) :
    (saveLease l none).run w = (.ok (), w) := rfl

theorem run_saveLease_some (l : Lease) (path : String) (w : Work σ) :
    (saveLease l (some path)).run w = ((l.save w.shell.files (.read path)).1.mapError .crash,
      { w with shell := { w.shell with
        files := (l.save w.shell.files (.read path)).2 } }) := by
  unfold saveLease
  simp only [run_bind, run_get, run_modifyShell, run_orCrash]

/-- Where leases are kept is known once the settings are. -/
theorem run_leasePath (given : Option String) (w : Work σ) : (leasePath given).run w =
    ((w.shell.preferences.settle w.shell.files).1.mapError .crash |>.map fun s =>
        (Text.nonempty? given).or s.leaseFile,
      { w with shell := { w.shell with
        preferences := (w.shell.preferences.settle w.shell.files).2 } }) := by
  unfold leasePath
  rw [run_bind, run_settings]
  rcases (w.shell.preferences.settle w.shell.files).1 with fault | s
  · rfl
  · rfl

/-- A path that is given counts. -/
theorem nonempty?_some {path : String} (h : path ≠ "") : Text.nonempty? (some path) = some path := by
  unfold Text.nonempty?
  simp [h]

end PrefixDelegation.Command
