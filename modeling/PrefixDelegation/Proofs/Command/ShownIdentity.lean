import PrefixDelegation.Proofs.Command.GivenOptions
import PrefixDelegation.Proofs.Command.Opening
import PrefixDelegation.Proofs.Identity.Resolution

/-!
# Showing the identifier of a session

The command `duid` and a session look for the identifier in different ways. The command takes the
first text that is not empty, the identifier before the hardware address before the interface, and
reads nothing else. A session takes what overrides a setting even if it is empty, needs its hardware
address before the identifier, and needs more than an identifier.

They agree all the same: an empty text is neither an identifier nor a hardware address nor the name of
an interface, so a session that was opened chose a text that is not empty, and the command chooses the
same one (`source?_of_resolveIdentity`). So the command shows the identifier of the session
(`duid_shows_identity`).
-/

namespace PrefixDelegation

open Text (nonempty?)

/-! ### Texts that are not empty -/

/-- **The first text is the first text that is not empty**, unless it is empty. -/
theorem nonempty?_or_of_ne {a b : Option String} {text : String} (h : a.or b = some text)
    (htext : text ≠ "") : (nonempty? a).or (nonempty? b) = some text := by
  rcases a with _ | a
  · change b = some text at h
    rw [h, Command.nonempty?_some htext]
    rfl
  · cases h
    rw [Command.nonempty?_some htext]
    rfl

theorem nonempty?_or_of_none {a b : Option String} (h : a.or b = none) :
    (nonempty? a).or (nonempty? b) = none := by
  obtain ⟨rfl, rfl⟩ := Option.or_eq_none_iff.mp h
  rfl

/-- A text that is there and not empty. -/
theorem eq_some_of_nonempty? {a : Option String} {text : String} (h : nonempty? a = some text) :
    a = some text ∧ text ≠ "" := by
  obtain ⟨ha, htext⟩ := Option.filter_eq_some_iff.mp h
  refine ⟨ha, ?_⟩
  rintro rfl
  cases htext

namespace Command

open Act ClientConfig

/-- What a connection is given that its identifier can be taken from. -/
def Connection.identityOptions (c : Connection) : IdentityOptions where
  interface := c.interface
  duid := c.duid
  hardwareAddress := c.hardwareAddress

/-- **A client that has an identity took its identifier from where the command takes it.** -/
theorem source?_of_resolveIdentity {c : Connection} {s : Settings} {m : Machine}
    {now : Calendar.Moment} {identity : Identity}
    (h : (s.clientConfig c.overrides).resolveIdentity m now = .ok identity) :
    ∃ source, c.identityOptions.source? s = some source ∧
      source.resolve m now = .ok identity.duid := by
  obtain ⟨address, d, record, haddress, hduid, rfl⟩ := resolveIdentity_eq_ok_iff.mp h
  have hgiven : (s.clientConfig c.overrides).duid = (c.duid.or s.duid).map .text :=
    Option.map_or.symm
  have hgivenAddress : (s.clientConfig c.overrides).hardwareAddress
      = (c.hardwareAddress.or s.hardwareAddress).map .text := Option.map_or.symm
  unfold IdentityOptions.source? Connection.identityOptions
  dsimp only
  rcases hd : c.duid.or s.duid with _ | text
  · -- the identifier is made from the hardware address, so there is one
    rw [hd] at hgiven
    obtain ⟨a, rfl, rfl⟩ := resolveDuid_of_none hgiven hduid
    rw [nonempty?_or_of_none hd]
    rcases ha : c.hardwareAddress.or s.hardwareAddress with _ | text
    · -- the hardware address is that of an interface, whose name is not empty
      rw [ha] at hgivenAddress
      obtain ⟨name, hname, hfound⟩ := (resolveHardwareAddress_of_none hgivenAddress).mp haddress
      obtain ⟨hi, hne⟩ : c.interface.or s.interface = some name ∧ name ≠ "" :=
        eq_some_of_nonempty? hname
      rw [nonempty?_or_of_none ha, nonempty?_or_of_ne hi hne]
      refine ⟨.interface name, rfl, ?_⟩
      rw [IdentitySource.resolve, hfound]
      rfl
    · rw [ha] at hgivenAddress
      have hread := (resolveHardwareAddress_of_given hgivenAddress).mp haddress
      rw [nonempty?_or_of_ne ha (Given.ne_empty_of_readHardwareAddress hread)]
      refine ⟨.hardwareAddress text, rfl, ?_⟩
      rw [IdentitySource.resolve, hread]
      rfl
  · rw [hd] at hgiven
    obtain ⟨hread, -⟩ := (resolveDuid_of_given hgiven).mp hduid
    rw [nonempty?_or_of_ne hd (Given.ne_empty_of_readDuid hread)]
    refine ⟨.duid text, rfl, ?_⟩
    rw [IdentitySource.resolve, hread]
    rfl

/-! ### The command -/

/-- The identifier is shown, if there is something to take it from. -/
theorem run_showIdentity {o : IdentityOptions} {w : Work Network} {settled : Settings}
    {source : IdentitySource} {d : Octets}
    (hsettled : (w.shell.preferences.settle w.shell.files).1 = .ok settled)
    (hsource : o.source? settled = some source)
    (hresolve : source.resolve w.net.host.machine w.net.host.now = .ok d) :
    (showIdentity o).run w = (.ok (), { w with shell := { w.shell with
      preferences := (w.shell.preferences.settle w.shell.files).2
      output := w.shell.output ++ [Duid.write d ++ "\n"] } }) := by
  unfold showIdentity
  simp only [run_bind, run_settings_of_ok hsettled, hsource, run_get, hresolve, run_say]

/-- Arguments of `duid` give these options, in whatever way, and nothing else. -/
def IdentityOptions.GivenBy (o : IdentityOptions) (arguments : List String) : Prop :=
  ∃ s, scan CommandName.duid.forms false arguments = .ok s ∧ s.operands = [] ∧
    s.has "--help" = false ∧ o = ⟨s.value? "--interface", s.value? "--duid", s.value? "--mac"⟩

/-- One way to give options. -/
def IdentityOptions.spelled (o : IdentityOptions) : List String :=
  spell "--interface" o.interface ++ (spell "--duid" o.duid ++ spell "--mac" o.hardwareAddress)

/-- All options can be given. -/
theorem IdentityOptions.givenBy_spelled (o : IdentityOptions) : o.GivenBy o.spelled := by
  -- each name waits for a value, and takes the next argument for it
  have hinterface : readOption CommandName.duid.forms "--interface" = .ok ⟨[], some
      (⟨["--interface", "-i"], .text, "Network interface to derive the DUID from"⟩,
        "--interface")⟩ := by
    rfl
  have hduid : readOption CommandName.duid.forms "--duid" = .ok ⟨[], some
      (⟨["--duid"], .text, "Validate and normalise a DUID given as hex"⟩, "--duid")⟩ := by
    rfl
  have hmac : readOption CommandName.duid.forms "--mac" = .ok ⟨[], some
      (⟨["--mac", "-m"], .text, "Derive the DUID from this MAC address"⟩, "--mac")⟩ := by
    rfl
  have hscan : scan CommandName.duid.forms false o.spelled = _ :=
    scan_spell (by decide) (by decide) hinterface o.interface _
  rw [scan_spell (by decide) (by decide) hduid, ← List.append_nil (spell "--mac" _),
    scan_spell (by decide) (by decide) hmac, scan] at hscan
  refine ⟨_, hscan, rfl, ?_⟩
  -- which options are found depends on which are there, but not on their values
  rcases o with ⟨_ | interface, _ | duid, _ | hardwareAddress⟩ <;> exact ⟨rfl, rfl⟩

/-- The options of `duid` can be given any values. -/
theorem objections_of_scan_duid {arguments : List String} {s : Scanned} (files : Files)
    (h : scan CommandName.duid.forms false arguments = .ok s) : s.objections files = [] := by
  have hkinds : ∀ form ∈ CommandName.duid.forms, form.value = .flag ∨ form.value = .text := by
    decide
  exact objections_eq_nil files fun o ho => hkinds o.form (form_mem_of_scan h o ho)

variable {w : Work Network} {settled : Settings} {threshold : Level}

/-- The command shows the identifier that its options lead to. -/
theorem outcome_duid {o : IdentityOptions} {arguments : List String} {source : IdentitySource}
    {d : Octets} (hsettled : (w.shell.preferences.settle w.shell.files).1 = .ok settled)
    (hlevel : Level.ofName? settled.logLevel = some threshold) (harguments : o.GivenBy arguments)
    (hsource : o.source? settled = some source)
    (hresolve : source.resolve w.net.host.machine w.net.host.now = .ok d)
    (sleeper : Sleeper) (sleeps : Nat) :
    ∃ w', outcome ("duid" :: arguments) w sleeper sleeps = (.exit 0, w') ∧ w'.net = w.net ∧
      w'.shell.output = w.shell.output ++ [Duid.write d ++ "\n"] ∧
      w'.shell.notices = w.shell.notices := by
  obtain ⟨s, hscan, hoperands, hhelp, rfl⟩ := harguments
  have hnone : s.objections w.shell.files
      ++ operandObjections .duid w.shell.files s.operands = [] := by
    rw [objections_of_scan_duid _ hscan, hoperands]
    rfl
  have hperform := run_perform hsettled hlevel hscan hhelp hnone
  -- the settings are looked at again, and they are still the same
  have hagain : ((w.prepared threshold).shell.preferences.settle w.shell.files).1 = .ok settled :=
    congrArg Prod.fst (Preferences.settle_settle (Prod.ext hsettled rfl) _)
  have hshown := run_showIdentity (w := w.prepared threshold) hagain hsource hresolve
  have hrun := hperform.trans (run_bind_of_ok (f := fun _ => pure none) hshown)
  exact ⟨_, outcome_of_perform hrun sleeper sleeps, rfl, rfl, rfl⟩

/-- **The command `duid` tells who the client is.** Let the settings settle and name a level. Whenever
a session can be opened with what a connection is given, the command with the same three options, on
the same machine and at the same time, ends with status zero and writes the identifier of the session
and nothing else. There is a command line for any three options, and it does not matter which one it
is. -/
theorem duid_shows_identity {c : Connection} {random : RandomIds} {h : Host}
    {session : Session Host}
    (hsettled : (w.shell.preferences.settle w.shell.files).1 = .ok settled)
    (hlevel : Level.ofName? settled.logLevel = some threshold)
    (hmachine : h.machine = w.net.host.machine) (hnow : h.now = w.net.host.now)
    (hopen : ((settled.clientConfig c.overrides).openSession random h).outcome = .ok session) :
    c.identityOptions.GivenBy c.identityOptions.spelled ∧
    ∀ arguments, c.identityOptions.GivenBy arguments → ∀ sleeper sleeps,
      ∃ w', outcome ("duid" :: arguments) w sleeper sleeps = (.exit 0, w') ∧ w'.net = w.net ∧
        w'.shell.output = w.shell.output ++ [Duid.write session.duid ++ "\n"] ∧
        w'.shell.notices = w.shell.notices := by
  obtain ⟨identity, address, record, host, hidentity, -, -, hstart⟩ := opened_of_openSession hopen
  obtain ⟨sequencer, -, rfl⟩ := Session.start_eq hstart
  obtain ⟨source, hsource, hresolve⟩ := source?_of_resolveIdentity hidentity
  rw [hmachine, hnow] at hresolve
  exact ⟨c.identityOptions.givenBy_spelled, fun arguments harguments sleeper sleeps =>
    outcome_duid hsettled hlevel harguments hsource hresolve sleeper sleeps⟩

/-- What comes of opening a session on a small machine. -/
def smallOpening : Opening :=
  (({} : Settings).clientConfig smallConnection.overrides).openSession [] (smallHost 56)

/-- The session has the identifier that it is given. The command is given the same options in other
words: of two identifiers the last counts. -/
theorem duid_shows_identity_of_small_machine :
    ∃ session, smallOpening.outcome = .ok session ∧ session.duid = [0, 3, 0, 1] ∧
      ∀ sleeper, ∃ w',
        outcome ["duid", "-ia", "--duid=", "--duid", "00030001"] (smallWork 56) sleeper 0
          = (.exit 0, w') ∧
        w'.shell.output = ["00:03:00:01\n"] := by
  rcases hopening : smallOpening.outcome with e | session
  · have hopened : smallOpening.outcome.isOk = true := by decide +kernel
    rw [hopening] at hopened
    cases hopened
  have hduid : session.duid = [0, 3, 0, 1] := by
    have hfound : smallOpening.outcome.toOption.map Session.duid = some [0, 3, 0, 1] := by
      decide +kernel
    rw [hopening] at hfound
    exact Option.some.inj hfound
  have hgiven : smallConnection.identityOptions.GivenBy ["-ia", "--duid=", "--duid", "00030001"] :=
    ⟨_, rfl, rfl, rfl, rfl⟩
  refine ⟨session, rfl, hduid, fun sleeper => ?_⟩
  obtain ⟨w', hend, -, hresults, -⟩ := (duid_shows_identity (w := smallWork 56) (h := smallHost 56)
    rfl rfl rfl rfl hopening).2 _ hgiven sleeper 0
  rw [hduid] at hresults
  exact ⟨w', hend, hresults⟩

end Command

end PrefixDelegation
