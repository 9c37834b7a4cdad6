import PrefixDelegation.Command.Show
import PrefixDelegation.Proofs.Command.Display
import PrefixDelegation.Proofs.Command.Opening

/-!
# From `obtain` to `show`

A lease that is obtained is put in its place before it is reported (`obtainIn_eq_ok`), and it is one
that can be kept and read back (`obtain_eq_ok`). So what `show` reads there is the lease itself
(`showLease_ok`), and both commands print the same document of it (`saved_lease_shown`).
-/

namespace PrefixDelegation.Command

open Calendar

variable {path : String}

/-- What is left when a lease was obtained in a session and reported as JSON. -/
theorem obtainIn_eq_ok {o : ObtainOptions} {w w' : Work (Session Host)} (hjson : o.asJson = true)
    (houtput : o.output = some path) (hpath : path ≠ "") (h : (obtainIn o).run w = (.ok (), w')) :
    ∃ s files, w.net.obtain = (.ok (), s) ∧ s.error = none ∧
      s.lease.save files (.read path) = (.ok (), w'.shell.files) ∧
      w'.shell.output = w.shell.output ++ [(successDocument s.lease).indented ++ "\n"] := by
  unfold obtainIn at h
  rw [hjson, houtput] at h
  simp only [Bool.true_or, if_true, Act.run_bind, run_onSession, run_orCrash, Act.run_get] at h
  rcases hobtain : w.net.obtain with ⟨fault | ⟨⟩, s⟩
  · rw [hobtain] at h
    cases h
  rw [hobtain] at h
  simp only [Except.mapError] at h
  cases herror : s.error with
  | some e =>
    -- the error is reported, which ends the program
    rw [herror] at h
    simp only [run_say, run_exit, Act.run_bind] at h
    cases h
  | none =>
    rw [herror] at h
    simp only [Act.run_bind, run_leasePath, nonempty?_some hpath] at h
    have hresults := output_foldl_record s.journal w.shell
    generalize s.journal.foldl Shell.record w.shell = shell at h hresults
    -- the settings settle, and the lease is put in its place
    rcases hsettled : (shell.preferences.settle shell.files).1 with fault | settings
    · rw [hsettled] at h
      cases h
    rw [hsettled] at h
    simp only [Except.mapError, Except.map, Option.some_or, run_saveLease_some] at h
    rcases hsave : s.lease.save shell.files (.read path) with ⟨fault | ⟨⟩, files⟩
    · rw [hsave] at h
      cases h
    rw [hsave] at h
    simp only [run_say] at h
    cases h
    exact ⟨s, shell.files, rfl, herror, hsave, by rw [← hresults]⟩

/-- **What `obtain` leaves behind** when it reports a lease as JSON: the lease is at its place, and it
is one that can be kept. -/
theorem obtain_eq_ok {o : ObtainOptions} {w w' : Work Network} (hjson : o.asJson = true)
    (houtput : o.output = some path) (hpath : path ≠ "")
    (hclock : w.net.host.now.offset = some Offset.zero) (h : (obtain o).run w = (.ok (), w')) :
    ∃ (l : Lease) (files : Files), l.IsStorable ∧
      l.save files (.read path) = (.ok (), w'.shell.files) ∧
      w'.shell.output = w.shell.output ++ [(successDocument l).indented ++ "\n"] := by
  unfold obtain at h
  obtain ⟨⟨⟩, w₁, hlog, h⟩ := Act.run_bind_eq_ok.mp h
  obtain ⟨session, w₂, hopen, h⟩ := Act.run_bind_eq_ok.mp h
  obtain ⟨hopened, hresults₂⟩ := openSession_eq_ok hopen
  have hnet := (Act.Aside.logInDetail o.connection.verbose).net_eq w
  have hresults₁ := (Act.Aside.logInDetail o.connection.verbose).output_eq w
  rw [hlog] at hnet hresults₁
  -- closing the session changes nothing of the shell
  rw [run_withSession] at h
  rcases hin : (obtainIn o).run ⟨w₂.shell, session⟩ with ⟨result, w₃⟩
  rw [hin] at h
  obtain ⟨rfl, rfl⟩ := Prod.mk.inj h
  obtain ⟨s, files, hobtain, herror, hsave, hresults₃⟩ := obtainIn_eq_ok hjson houtput hpath hin
  have hsession : session.transport.now.offset = some Offset.zero := by
    rw [hopened.now_eq, hnet, hclock]
  refine ⟨s.lease, files, (Lease.isShowable_of_obtain hsession hobtain herror).toIsStorable, hsave,
    ?_⟩
  calc w₃.closed.shell.output
      = w₂.shell.output ++ [(successDocument s.lease).indented ++ "\n"] := hresults₃
    _ = w.shell.output ++ [(successDocument s.lease).indented ++ "\n"] := by
      rw [hresults₂, hresults₁]

/-- `show` prints the document of a lease that it can load. -/
theorem showLease_ok {u : Work Network} {settings : Settings} {l : Lease} (hpath : path ≠ "")
    (hsettled : (u.shell.preferences.settle u.shell.files).1 = .ok settings)
    (hload : Lease.load u.shell.nesting u.shell.files (.read path) = .ok l) :
    ∃ u', (showLease ⟨some path, true⟩).run u = (.ok (), u') ∧
      u'.shell.output = u.shell.output ++ [l.toJson.indented ++ "\n"] := by
  unfold showLease
  simp only [Act.run_bind, run_leasePath, nonempty?_some hpath, hsettled, Except.mapError,
    Except.map, Option.some_or, Act.run_get, hload, if_true, run_say]
  exact ⟨_, rfl, rfl⟩

/-- The report of a lease is plain. -/
theorem isPlain_successDocument {l : Lease} (h : l.IsStorable) :
    Json.IsPlain 3 (successDocument l) := by
  have hnames : ["success", "lease"].Nodup := by decide
  refine .object hnames fun m hm => ?_
  simp only [List.mem_cons, List.not_mem_nil, or_false] at hm
  rcases hm with rfl | rfl
  · exact .bool true
  · exact Lease.isPlain_toJson h

/-- **Leases come back as they were kept.** The document of a lease describes that lease and no other,
and so does the content of its file: moment, networks and name servers are the same and in the same
order, and a lease that grants nothing comes back as one that grants nothing, however deep the reader
lets documents be nested. And what `show` prints of the file that `obtain` left is the document of the
very lease that `obtain` has reported. -/
theorem saved_lease_shown :
    (∀ l : Lease, l.IsStorable →
      Lease.ofJson l.toJson = .ok l ∧
      ∀ nesting, Lease.ofFileContent nesting l.fileContent = .ok l ∧
        ∀ (f g : Files) (p : Path), l.save f p = (.ok (), g) → Lease.load nesting g p = .ok l) ∧
    ∀ (o : ObtainOptions) (path : String) (w w' : Work Network), o.asJson = true →
      o.output = some path → path ≠ "" → w.net.host.now.offset = some Offset.zero →
      (obtain o).run w = (.ok (), w') →
      ∃ (l : Lease) (reported shown : String),
        w'.shell.output = w.shell.output ++ [reported] ∧
        (∀ nesting, Json.read nesting reported = .ok (successDocument l) ∧
          Json.read nesting shown = .ok l.toJson) ∧
        ∀ (u : Work Network) (settings : Settings), u.shell.files = w'.shell.files →
          (u.shell.preferences.settle u.shell.files).1 = .ok settings →
          ∃ u', (showLease ⟨some path, true⟩).run u = (.ok (), u') ∧
            u'.shell.output = u.shell.output ++ [shown] := by
  refine ⟨fun l h => ⟨Lease.ofJson_toJson h, fun nesting =>
    ⟨Lease.ofFileContent_fileContent h nesting,
      fun f g p hsave => Lease.load_save h hsave nesting⟩⟩, ?_⟩
  intro o path w w' hjson houtput hpath hclock h
  obtain ⟨l, files, hstorable, hsave, hresults⟩ := obtain_eq_ok hjson houtput hpath hclock h
  refine ⟨l, _, l.toJson.indented ++ "\n", hresults, fun nesting => ⟨?_, ?_⟩,
    fun u settings hfiles hsettled => ?_⟩
  · exact Json.read_indented ((isPlain_successDocument hstorable).mono nesting.three_le)
  · exact Json.read_indented
      ((Lease.isPlain_toJson hstorable).mono (Nat.le_of_succ_le nesting.three_le))
  · refine showLease_ok hpath hsettled ?_
    rw [hfiles]
    exact Lease.load_save hstorable hsave u.shell.nesting

/-- Obtaining a lease on the small machine, and keeping it below the root. -/
def smallObtaining : ObtainOptions := ⟨smallConnection, some "/b", true⟩

/-- The small machine later on, with what is left of the files. -/
def smallAfter (files : Files) : Work Network :=
  { smallWork 56 with shell := { (smallWork 56).shell with files } }

/-- A network with host bits and a name server come back, and so does what the small machine is
delegated. -/
theorem saved_lease_shown_of_small_network :
    ∃ (l : Lease) (w' u' : Work Network) (reported shown : String),
      l.networks.length = 1 ∧ l.nameServers.length = 1 ∧ Lease.ofJson l.toJson = .ok l ∧
      (obtain smallObtaining).run (smallWork 56) = (.ok (), w') ∧
      w'.shell.output = [reported] ∧
      (showLease ⟨some "/b", true⟩).run (smallAfter w'.shell.files) = (.ok (), u') ∧
      u'.shell.output = [shown] ∧
      ∃ l, ∀ nesting, Json.read nesting reported = .ok (successDocument l) ∧
        Json.read nesting shown = .ok l.toJson := by
  let l : Lease := ⟨Moment.origin, [⟨.ipv6, 1, 64, by decide, by decide⟩], [.text "::1"]⟩
  have hstorable : l.IsStorable :=
    ⟨rfl, fun n hn => List.mem_singleton.mp hn ▸ rfl, fun s hs => ⟨"::1", List.mem_singleton.mp hs⟩⟩
  obtain ⟨hjson, -⟩ := saved_lease_shown.1 l hstorable
  rcases hrun : (obtain smallObtaining).run (smallWork 56) with ⟨e | ⟨⟩, w'⟩
  · -- the server answers
    have hobtained : ((obtain smallObtaining).run (smallWork 56)).1.isOk = true := by decide +kernel
    rw [hrun] at hobtained
    cases hobtained
  · obtain ⟨granted, reported, shown, hresults, hread, hshow⟩ :=
      saved_lease_shown.2 smallObtaining "/b" _ _ rfl rfl (by decide) rfl hrun
    obtain ⟨u', hrun', hresults'⟩ := hshow (smallAfter w'.shell.files) {} rfl rfl
    exact ⟨l, w', u', reported, shown, rfl, rfl, hjson, rfl, hresults, hrun', hresults', granted,
      hread⟩

end PrefixDelegation.Command
