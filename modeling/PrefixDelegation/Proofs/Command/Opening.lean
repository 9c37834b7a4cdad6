import PrefixDelegation.Command.Obtain
import PrefixDelegation.Command.Run
import PrefixDelegation.Proofs.Command.Acts
import PrefixDelegation.Proofs.Session.Run
import PrefixDelegation.Proofs.Traversal

/-!
# Before a session

What no part of an action changes, the action does not change (`Act.Preserves.bind`).

Before a command has a session it settles its settings, sets up the log and opens the session. The
first two are done aside: they concern neither the network nor the results (`Act.Aside`). A session
that was opened has its socket on the host that was there, with the same clocks, and has asked the
socket for its address and for nothing else (`openSession_eq_ok`).
-/

namespace PrefixDelegation.Command

variable {σ α β γ : Type}

/-! ### What an action does not change -/

/-- An action does not change what can be seen of the work in a view. -/
def Act.Preserves (x : Act σ α) (view : Work σ → γ) : Prop := ∀ w, view (x.run w).2 = view w

namespace Act.Preserves

variable {view : Work σ → γ}

theorem pure (a : α) : Act.Preserves (Pure.pure a : Act σ α) view := fun _ => rfl

theorem get : Act.Preserves (MonadState.get : Act σ (Work σ)) view := fun _ => rfl

theorem orCrash (x : Except Fault α) : Act.Preserves (Command.orCrash x : Act σ α) view := by
  intro w
  rw [run_orCrash]

theorem modifyShell {f : Shell → Shell}
    (h : ∀ w : Work σ, view { w with shell := f w.shell } = view w) :
    Act.Preserves (Command.modifyShell f : Act σ Unit) view :=
  h

/-- What no part of an action changes, the action does not change. -/
theorem bind {x : Act σ α} {f : α → Act σ β} (hx : x.Preserves view)
    (hf : ∀ a, (f a).Preserves view) : (x >>= f).Preserves view := by
  intro w
  have hfirst := hx w
  rcases hrun : x.run w with ⟨e | a, between⟩
  · rw [hrun] at hfirst
    rw [run_bind_of_error hrun]
    exact hfirst
  · rw [hrun] at hfirst
    rw [run_bind_of_ok hrun]
    exact (hf a between).trans hfirst

end Act.Preserves

/-- An action that changes neither the network nor the results. -/
def Act.Aside (x : Act σ α) : Prop := x.Preserves fun w => (w.net, w.shell.output)

namespace Act.Aside

theorem net_eq {x : Act σ α} (h : x.Aside) (w : Work σ) : (x.run w).2.net = w.net :=
  congrArg Prod.fst (h w)

theorem output_eq {x : Act σ α} (h : x.Aside) (w : Work σ) :
    (x.run w).2.shell.output = w.shell.output :=
  congrArg Prod.snd (h w)

theorem settings : Act.Aside (Command.settings : Act σ Settings) := by
  refine Preserves.bind .get fun w => ?_
  exact Preserves.bind (.modifyShell fun _ => rfl) fun _ => .orCrash _

theorem setUpLog (r : LogRequest) : Act.Aside (Command.setUpLog r : Act σ _) := by
  refine Preserves.bind .get fun w => ?_
  refine Preserves.bind (.modifyShell fun _ => rfl) fun _ => ?_
  split
  · exact Preserves.bind (.modifyShell fun _ => rfl) fun _ => .pure _
  · exact Preserves.pure _

theorem logInDetail (verbose : Bool) : Act.Aside (Command.logInDetail verbose : Act σ Unit) := by
  unfold Command.logInDetail
  split
  · exact Preserves.bind (setUpLog _) fun _ => .orCrash _
  · exact Preserves.pure _

theorem logRun (o : RunOptions) : Act.Aside (Command.logRun o : Act σ Unit) := by
  refine Preserves.bind settings fun s => ?_
  dsimp only
  split
  · exact Preserves.bind (setUpLog _) fun _ => .orCrash _
  · exact Preserves.pure _

theorem leasePath (given : Option String) : Act.Aside (Command.leasePath given : Act σ _) :=
  Preserves.bind settings fun _ => .pure _

end Act.Aside

/-! ### Records -/

/-- Records do not concern the results. -/
theorem output_foldl_record (journal : Journal) (s : Shell) :
    (journal.foldl Shell.record s).output = s.output := by
  induction journal generalizing s with
  | nil => rfl
  | cons r journal ih => exact ih (s.record r)

/-! ### Sessions -/

/-- A session that was opened on a host. -/
structure IsOpened (h : Host) (s : Session Host) : Prop where
  now_eq : s.transport.now = h.now
  events_eq : ∃ address, s.transport.events = h.events ++ [.shareAddress, .bind address]

/-- **What it takes to open a session**: an identity, a local address, a socket and a sequence of
transaction identifiers. -/
theorem opened_of_openSession {c : ClientConfig} {random : RandomIds} {h : Host} {s : Session Host}
    (hopen : (c.openSession random h).outcome = .ok s) :
    ∃ identity address record host, c.resolveIdentity h.machine h.now = .ok identity ∧
      c.resolveLocalAddress h.machine = .ok address ∧ h.listen address = (.ok record, host) ∧
      Session.start c identity random host = .ok s := by
  unfold ClientConfig.openSession at hopen
  split at hopen
  · cases hopen
  next identity hidentity =>
  split at hopen
  · cases hopen
  next address haddress =>
  split at hopen
  · cases hopen
  next record host hlisten =>
  have hstart := mapError_eq_ok_iff.mp hopen
  exact ⟨identity, address, record, host, hidentity, haddress, hlisten, hstart⟩

/-- Opening a session asks the socket for its address. -/
theorem isOpened_of_opening {c : ClientConfig} {random : RandomIds} {h : Host}
    {s : Session Host} (hopen : (c.openSession random h).outcome = .ok s) : IsOpened h s := by
  obtain ⟨identity, address, record, host, -, -, hlisten, hstart⟩ :=
    opened_of_openSession hopen
  obtain ⟨sequencer, -, hs⟩ := Session.start_eq hstart
  -- nothing refused, so the host has noted two events and nothing else
  have hhost : host = (h.note .shareAddress).note (.bind address) := by
    unfold Host.listen at hlisten
    dsimp only at hlisten
    split at hlisten
    · cases hlisten
    · exact (Prod.mk.inj hlisten).2.symm
  rw [hs, hhost]
  refine ⟨rfl, address, ?_⟩
  exact List.append_assoc h.events [.shareAddress] [.bind address]

/-- **A session of a command** was opened on the host of the command, and nothing was written to the
results meanwhile. -/
theorem openSession_eq_ok {c : Connection} {w w' : Work Network} {s : Session Host}
    (h : (openSession c).run w = (.ok s, w')) :
    IsOpened w.net.host s ∧ w'.shell.output = w.shell.output := by
  unfold openSession at h
  obtain ⟨settled, between, hsettings, h⟩ := Act.run_bind_eq_ok.mp h
  have hnet := Act.Aside.settings.net_eq w
  have houtput := Act.Aside.settings.output_eq w
  rw [hsettings] at hnet houtput
  rw [← houtput, ← hnet]
  simp only [Act.run_bind, Act.run_get, Act.run_modify, run_record] at h
  split at h
  · next session hopening =>
    cases h
    exact ⟨isOpened_of_opening hopening, output_foldl_record _ _⟩
  · split at h
    · -- a complaint ends the program
      simp only [Act.run_bind] at h
      split at h <;> cases h
    · cases h

/-! ### A small network -/

/-- A machine with one interface, whose server will delegate one network of the given length. -/
def smallHost (length : UInt8) : Host where
  machine := ⟨[⟨"a", 2, [2, 0, 0, 0, 0, 1]⟩],
    some "fe800000000000000000000000000001 02 40 20 80 a\n"⟩
  clock := 0.0
  now := Calendar.Moment.origin
  bindRefusal := none
  timerError? := Seconds.timerError? Host.longestWait
  arrivals := [⟨0.5, .ok (smallAdvertise 0x11)⟩, ⟨0.5, .ok (smallReply 0x22 length)⟩]
  refusals := []
  events := []

/-- A shell whose settings are settled, without files, on such a machine. -/
def smallWork (length : UInt8) : Work Network where
  shell := ⟨⟨⟨[]⟩, some {}⟩, ⟨[], [], [], []⟩, .none, [], [], [], ⟨3, by decide⟩⟩
  net := ⟨smallHost length, [.ofNat 0x11, .ofNat 0x22]⟩

/-- What a session on that machine needs to be given. -/
def smallConnection : Connection where
  interface := some "a"
  duid := some "00030001"
  hardwareAddress := none
  server := none
  timeout := none
  verbose := false

end PrefixDelegation.Command
