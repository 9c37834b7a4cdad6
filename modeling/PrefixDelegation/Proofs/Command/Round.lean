import PrefixDelegation.Command.Run
import PrefixDelegation.Proofs.Calendar.Positive
import PrefixDelegation.Proofs.Command.Display
import PrefixDelegation.Proofs.Command.Kept

/-!
# One round of a run

A round takes one of four courses. Obtaining lets a fault escape, and the run crashes with it. Or
obtaining fails, and the files are left alone. Or there is a lease: then it is put in its place before
anything else happens, or the run crashes because it cannot be put there. Showing the lease and finding
out how long to wait cannot fail, since the lease is one that a Reply has granted.

`Running.Rounded` says what comes of all this for the file, for the session and for the wait, and
`Running.rounded` that every round is like that, as long as leases can be put in their place.
-/

namespace PrefixDelegation.Command

open Calendar

/-! ### The courses of a round -/

/-- What a round without a fault comes to: the end if it was the only one, and else the wait. -/
def RunOptions.conclusion (o : RunOptions) (failed : Bool) (wait : Seconds) :
    Except Ending Seconds :=
  if o.once then .error (.exit (if failed then 1 else 0)) else .ok wait

/-- The work that is there once a session was asked for a lease: what it had to say is written. -/
def Work.reported (w : Work (Session Host)) (s : Session Host) : Work (Session Host) :=
  ⟨s.journal.foldl Shell.record w.shell, { s with journal := [] }⟩

section Round

variable {o : RunOptions} {path : String} {w w' : Work (Session Host)} {s : Session Host}

/-- What is written when a session has something to say. -/
theorem logged_reported (w : Work (Session Host)) (s : Session Host) :
    w.shell.Logged (w.reported s).shell :=
  .records s.journal w.shell

/-- Records are no sleep. -/
theorem sleeps_records (journal : Journal) (s : Shell) :
    (journal.foldl Shell.record s).sleeps = s.sleeps := by
  induction journal generalizing s with
  | nil => rfl
  | cons r journal ih => exact ih (s.record r)

/-- The session, and the times for which the program set out to sleep. -/
def Work.sessionAndSleeps (w : Work (Session Host)) : Session Host × List Seconds :=
  (w.net, w.shell.sleeps)

/-- Records change neither. -/
theorem record_preserves (journal : Journal) :
    (record journal : Act (Session Host) Unit).Preserves Work.sessionAndSleeps :=
  .modifyShell fun w => congrArg (w.net, ·) (sleeps_records journal w.shell)

/-- Dealing with an outcome leaves the session alone and is no sleep. -/
theorem concludeRound_preserves (o : RunOptions) (path : Option String) :
    (concludeRound o path).Preserves Work.sessionAndSleeps := by
  have hsave : ∀ l, (saveLease l path : Act (Session Host) Unit).Preserves
      Work.sessionAndSleeps := by
    intro l
    cases path with
    | none => exact .pure _
    | some path => exact .bind .get fun _ => .bind (.modifyShell fun _ => rfl) fun _ => .orCrash _
  have hdisplay : ∀ l, (display l : Act (Session Host) Unit).Preserves Work.sessionAndSleeps :=
    fun l => .bind (.orCrash _) fun _ => .bind (.orCrash _) fun _ => .modifyShell fun _ => rfl
  refine .bind .get fun w => ?_
  dsimp only
  split
  · exact .bind (record_preserves _) fun _ => .pure _
  · exact .bind (hsave _) fun _ => .bind (hdisplay _) fun _ => .orCrash _

/-- **A round changes the session by obtaining**, and by nothing else, and sets out to no sleep. -/
theorem round_sessionAndSleeps (o : RunOptions) (path : Option String) (w : Work (Session Host)) :
    ((round o path).run w).2.sessionAndSleeps =
      ({ w.net.obtain.2 with journal := [] }, w.shell.sleeps) := by
  have hinfo : ∀ (wait : Seconds) (r : Record), Act.Preserves (do
      record [r]
      return wait : Act (Session Host) Seconds) Work.sessionAndSleeps := fun _ _ =>
    .bind (record_preserves _) fun _ => .pure _
  unfold round
  rw [Act.run_bind, run_onSession]
  -- obtaining comes first, and what comes behind it preserves both
  refine Eq.trans ((?_ : Act.Preserves _ Work.sessionAndSleeps) _)
    (congrArg (Prod.mk _) (sleeps_records _ _))
  refine .bind (.orCrash _) fun _ => .bind (concludeRound_preserves o path) fun wait => ?_
  split
  · exact .bind .get fun _ => .bind (fun _ => rfl) fun _ => hinfo _ _
  · exact hinfo _ _

/-- A fault escapes. -/
theorem round_of_escape {fault : Fault} (h : w.net.obtain = (.error fault, s))
    (path : Option String) :
    (round o path).run w = (.error (.crash fault), w.reported s) := by
  unfold round
  simp only [Act.run_bind, run_onSession, h, run_orCrash, Except.mapError]
  rfl

/-- The outcome cannot be dealt with. -/
theorem round_of_unconcluded {e : Ending} {path : Option String} (h : w.net.obtain = (.ok (), s))
    (hc : (concludeRound o path).run (w.reported s) = (.error e, w')) :
    (round o path).run w = (.error e, w') := by
  unfold Work.reported at hc
  unfold round
  simp only [Act.run_bind, run_onSession, h, run_orCrash, Except.mapError, hc]

/-- The outcome was dealt with, and the round ends. -/
theorem round_of_concluded {wait : Seconds} {shell : Shell} {path : Option String}
    (h : w.net.obtain = (.ok (), s)) (hc : (concludeRound o path).run (w.reported s) =
      (.ok wait, ⟨shell, { s with journal := [] }⟩)) :
    ∃ shell', (round o path).run w =
      (o.conclusion s.error.isSome wait, ⟨shell', { s with journal := [] }⟩) ∧
      shell.Logged shell' := by
  unfold Work.reported at hc
  unfold round RunOptions.conclusion
  simp only [Act.run_bind, run_onSession, h, run_orCrash, Except.mapError, hc]
  by_cases honce : o.once
  · rw [if_pos honce, if_pos honce]
    exact ⟨shell, rfl, .of_eq rfl rfl⟩
  · rw [if_neg honce, if_neg honce]
    exact ⟨_, rfl, .record shell _⟩

/-- Obtaining fails. -/
theorem round_of_failure {e : NegotiationError} (h : w.net.obtain = (.ok (), s))
    (herror : s.error = some e) (path : Option String) :
    ∃ shell, (round o path).run w = (o.conclusion true (.real o.retryInterval),
      ⟨shell, { s with journal := [] }⟩) ∧ w.shell.Logged shell := by
  have hfailed : s.error.isSome = true := by rw [herror]; rfl
  have hc : ∃ shell, (concludeRound o path).run (w.reported s) = (.ok (.real o.retryInterval),
      ⟨shell, { s with journal := [] }⟩) ∧ (w.reported s).shell.Logged shell := by
    unfold concludeRound Work.reported
    simp only [Act.run_bind, Act.run_get, herror, run_record]
    exact ⟨_, rfl, .records _ _⟩
  obtain ⟨shell, hc, hlogged⟩ := hc
  obtain ⟨shell', hround, hlogged'⟩ := round_of_concluded h hc
  rw [hfailed] at hround
  exact ⟨shell', hround, (logged_reported w s).trans (hlogged.trans hlogged')⟩

/-- There is a lease, and it cannot be put in its place. -/
theorem round_of_unsaved {fault : Fault} {files : Files} (h : w.net.obtain = (.ok (), s))
    (herror : s.error = none)
    (hsave : s.lease.save (w.reported s).shell.files (.read path) = (.error fault, files)) :
    ∃ w', (round o (some path)).run w = (.error (.crash fault), w') := by
  refine ⟨{ w.reported s with shell := { (w.reported s).shell with files } },
    round_of_unconcluded h ?_⟩
  unfold Work.reported at hsave ⊢
  unfold concludeRound
  simp only [Act.run_bind, Act.run_get, herror, run_saveLease_some, hsave, Except.mapError]

/-- There is a lease, and it is put in its place. -/
theorem round_of_grant {files : Files} (hclock : w.net.transport.now.offset = some Offset.zero)
    (h : w.net.obtain = (.ok (), s)) (herror : s.error = none)
    (hsave : s.lease.save (w.reported s).shell.files (.read path) = (.ok (), files)) :
    ∃ shell micros, s.lease.renewAfter.since? s.transport.now = some micros ∧
      (round o (some path)).run w =
        (o.conclusion false (if micros ≤ 0 then .real o.retryInterval
          else .real (microsToSeconds micros)), ⟨shell, { s with journal := [] }⟩) ∧
      w.shell.Keeps (.read path) [s.lease] shell := by
  have hshow := Lease.isShowable_of_obtain hclock h herror
  have hnow := (Session.grows_of_obtain h).offset_eq.trans hclock
  obtain ⟨micros, hsince, hdelay⟩ :=
    Lease.renewDelay_eq hshow.universal hnow (.real o.retryInterval)
  have hgranted : s.error.isSome = false := by rw [herror]; rfl
  -- the lease is put in its place and shown, and the wait is known
  have hc : ∃ shell, (concludeRound o (some path)).run (w.reported s) =
      (.ok (if micros ≤ 0 then .real o.retryInterval else .real (microsToSeconds micros)),
        ⟨shell, { s with journal := [] }⟩) ∧
      Shell.Logged { (w.reported s).shell with files } shell := by
    -- what was granted can be shown, so nothing fails behind the save
    obtain ⟨text, hdisplay⟩ := display_ok hshow
      { w.reported s with shell := { (w.reported s).shell with files } }
    unfold Work.reported at hsave hdisplay ⊢
    unfold concludeRound
    simp only [herror] at hdisplay
    simp only [Act.run_bind, Act.run_get, herror, run_saveLease_some, hsave, Except.mapError,
      hdisplay, run_orCrash, hdelay]
    exact ⟨_, rfl, .of_eq rfl rfl⟩
  obtain ⟨shell, hc, hlogged⟩ := hc
  obtain ⟨shell', hround, hlogged'⟩ := round_of_concluded h hc
  rw [hgranted] at hround
  refine ⟨shell', micros, hsince, hround, ?_⟩
  have hkept := (Shell.Keeps.of_logged (logged_reported w s)).trans (Shell.Keeps.of_save hsave)
  exact hkept.trans (.of_logged (hlogged.trans hlogged'))

end Round

/-! ### What comes of a round -/

namespace Running

/-- The lease that the next round obtains, if it obtains one. -/
def grant? (r : Running) : Option Lease :=
  match r.work.net.obtain with
  | (.ok (), s) => if s.error.isNone then some s.lease else none
  | (.error _, _) => none

/-- The next round can put its lease in its place, if it obtains one. -/
def CanSave (r : Running) (p : Path) : Prop :=
  ∀ l, r.grant? = some l →
    (l.save (r.work.reported r.work.net.obtain.2).shell.files p).1 = .ok ()

/-- How long to wait after the next round: as long as the retry interval, if there is no lease, if its
Reply delegates nothing, or if the lease is due already; and else until it is due, which is more than
no time. -/
structure Waits (r : Running) (wait : Seconds) : Prop where
  failed : r.work.net.obtain.2.error.isSome → wait = .real r.options.retryInterval
  undelegated : ∀ reply, { r.work.net with error := none }.negotiate.1 = .ok reply →
    (∀ o ∈ reply.options, o.isA Message.delegation = false) → wait = .real r.options.retryInterval
  granted : ∀ l, r.grant? = some l →
    ∃ micros, l.renewAfter.since? r.work.net.obtain.2.transport.now = some micros ∧
      (micros ≤ 0 → wait = .real r.options.retryInterval) ∧
      (0 < micros → wait = .real (microsToSeconds micros) ∧ 0.0 < microsToSeconds micros)

/-- What comes of the next round of a run that keeps its leases at a path. -/
structure Rounded (r : Running) (p : Path) : Prop where
  /-- The lease of the round is kept, if it has one, and else what was kept before. -/
  keeps : r.work.shell.Keeps p r.grant?.toList r.next.2.work.shell
  /-- A fault that escapes ends the program. -/
  escaped : ∀ fault, r.work.net.obtain.1 = .error fault → r.next.1 = .error (.crash fault)
  /-- The only round ends the program with a status that tells whether it failed. -/
  ended : r.work.net.obtain.1 = .ok () → r.options.once →
    r.next.1 = .error (.exit (if r.work.net.obtain.2.error.isSome then 1 else 0))
  /-- After any other round there is something to wait for. -/
  goes_on : r.work.net.obtain.1 = .ok () → r.options.once = false →
    ∃ wait, r.next.1 = .ok wait ∧ r.Waits wait

variable {r : Running} {s : Session Host}

theorem grant?_of_escape {fault : Fault} (h : r.work.net.obtain = (.error fault, s)) :
    r.grant? = none := by
  rw [grant?, h]

theorem grant?_of_failure {e : NegotiationError} (h : r.work.net.obtain = (.ok (), s))
    (herror : s.error = some e) : r.grant? = none := by
  rw [grant?, h]
  simp only [herror]
  rfl

theorem grant?_of_grant (h : r.work.net.obtain = (.ok (), s)) (herror : s.error = none) :
    r.grant? = some s.lease := by
  rw [grant?, h]
  simp only [herror]
  rfl

/-- A Reply that delegates nothing leaves the moment of renewal at the start of the calendar. -/
theorem renewAfter_of_undelegated {reply : Message} {l : Lease} {now : Moment}
    (h : Lease.ofReply reply now = .ok l)
    (hnone : ∀ o ∈ reply.options, o.isA Message.delegation = false) :
    l.renewAfter = Moment.origin := by
  obtain ⟨as, has, hrenew, -, -⟩ := Lease.ofReply_eq_ok h
  -- there is no association that could move the moment on
  have hempty : reply.options.filter (·.isA Message.delegation) = [] :=
    List.filter_eq_nil_iff.mpr fun o ho => by rw [hnone o ho]; exact Bool.false_ne_true
  unfold Message.associations at has
  rw [hempty] at has
  cases has
  exact (Except.ok.inj hrenew).symm

theorem next_eq {result : Except Ending Seconds} {work : Work (Session Host)}
    (h : (round r.options r.path).run r.work = (result, work)) :
    r.next = (result, { r with work }) := by
  rw [next, h]

section Rounded

variable {path : String}

/-- A round in which a fault escapes. -/
theorem rounded_of_escape {fault : Fault} (h : r.work.net.obtain = (.error fault, s)) :
    r.Rounded (.read path) := by
  have hnext := next_eq (round_of_escape h r.path)
  refine ⟨?_, ?_, ?_, ?_⟩
  · rw [hnext, grant?_of_escape h]
    exact .of_logged (logged_reported _ s)
  · intro fault' hfault
    rw [h] at hfault
    cases hfault
    rw [hnext]
  · intro hok
    rw [h] at hok
    cases hok
  · intro hok
    rw [h] at hok
    cases hok

/-- A round that ends well or fails. -/
theorem rounded_of_conclusion {wait : Seconds} {shell : Shell} (h : r.work.net.obtain = (.ok (), s))
    (hround : (round r.options r.path).run r.work =
      (r.options.conclusion s.error.isSome wait, ⟨shell, { s with journal := [] }⟩))
    (hkeeps : r.work.shell.Keeps (.read path) r.grant?.toList shell) (hwait : r.Waits wait) :
    r.Rounded (.read path) := by
  have hnext := next_eq hround
  refine ⟨?_, ?_, ?_, ?_⟩
  · rw [hnext]
    exact hkeeps
  · intro fault hfault
    rw [h] at hfault
    cases hfault
  · intro _ honce
    rw [hnext, h]
    exact if_pos honce
  · intro _ honce
    rw [hnext]
    refine ⟨wait, if_neg ?_, hwait⟩
    rw [honce]
    exact Bool.false_ne_true

/-- The wait after a round that fails. -/
theorem waits_of_failure {e : NegotiationError} (h : r.work.net.obtain = (.ok (), s))
    (herror : s.error = some e) : r.Waits (.real r.options.retryInterval) where
  failed _ := rfl
  undelegated _ _ _ := rfl
  granted l hl := by
    rw [grant?_of_failure h herror] at hl
    cases hl

/-- The wait after a round that comes to a lease. -/
theorem waits_of_grant {micros : Int} (h : r.work.net.obtain = (.ok (), s)) (herror : s.error = none)
    (huniversal : s.lease.renewAfter.offset = some Offset.zero)
    (hnow : s.transport.now.offset = some Offset.zero)
    (hsince : s.lease.renewAfter.since? s.transport.now = some micros) :
    r.Waits (if micros ≤ 0 then .real r.options.retryInterval
      else .real (microsToSeconds micros)) where
  failed hfailed := by
    rw [h, herror] at hfailed
    cases hfailed
  undelegated reply hreply hnone := by
    obtain ⟨reply', hreply', hlease⟩ := Session.obtain_granted h herror
    cases hreply'.symm.trans hreply
    -- nothing is earlier than the start of the calendar
    have horigin := renewAfter_of_undelegated hlease hnone
    have hdue : micros ≤ 0 := by
      rw [Lease.since?_of_universal huniversal hnow, horigin] at hsince
      cases hsince
      simp [Moment.origin]
    exact if_pos hdue
  granted l hl := by
    rw [grant?_of_grant h herror] at hl
    cases hl
    rw [h]
    refine ⟨micros, hsince, fun hdue => if_pos hdue, fun hpos => ?_⟩
    exact ⟨if_neg (Int.not_le.mpr hpos), microsToSeconds_pos hpos⟩

/-- **Every round of a run with a path is like that**, as long as its lease can be put in its
place. -/
theorem rounded (hpath : r.path = some path)
    (hclock : r.work.net.transport.now.offset = some Offset.zero)
    (hsave : r.CanSave (.read path)) : r.Rounded (.read path) := by
  rcases h : r.work.net.obtain with ⟨fault | ⟨⟩, s⟩
  · exact rounded_of_escape h
  cases herror : s.error with
  | some e =>
    obtain ⟨shell, hround, hlogged⟩ := round_of_failure (o := r.options) h herror r.path
    have hfailed : s.error.isSome = true := by rw [herror]; rfl
    refine rounded_of_conclusion h (by rw [hfailed]; exact hround) ?_ (waits_of_failure h herror)
    rw [grant?_of_failure h herror]
    exact .of_logged hlogged
  | none =>
    have hgranted : s.error.isSome = false := by rw [herror]; rfl
    have hsaved := hsave s.lease (grant?_of_grant h herror)
    rw [h] at hsaved
    rcases hfiles : s.lease.save (r.work.reported s).shell.files (.read path) with ⟨result, files⟩
    rw [hfiles] at hsaved
    cases hsaved
    obtain ⟨shell, micros, hsince, hround, hkeeps⟩ :=
      round_of_grant (o := r.options) hclock h herror hfiles
    have hnow := (Session.grows_of_obtain h).offset_eq.trans hclock
    refine rounded_of_conclusion h (by rw [hgranted, hpath]; exact hround) ?_
      (waits_of_grant h herror (Lease.isShowable_of_obtain hclock h herror).universal hnow hsince)
    rw [grant?_of_grant h herror]
    exact hkeeps

/-- A round after which there is something to wait for could put its lease in its place. -/
theorem canSave_of_next {wait : Seconds} (hpath : r.path = some path) (hnext : r.next.1 = .ok wait) :
    r.CanSave (.read path) := by
  intro l hl
  rcases h : r.work.net.obtain with ⟨fault | ⟨⟩, s⟩
  · rw [grant?_of_escape h] at hl
    cases hl
  cases herror : s.error with
  | some e =>
    rw [grant?_of_failure h herror] at hl
    cases hl
  | none =>
    rw [grant?_of_grant h herror] at hl
    cases hl
    rcases hsave : s.lease.save (r.work.reported s).shell.files (.read path)
      with ⟨fault | ⟨⟩, files⟩
    · -- the round would have crashed
      obtain ⟨w', hround⟩ := round_of_unsaved (o := r.options) h herror hsave
      rw [← hpath] at hround
      rw [next_eq hround] at hnext
      cases hnext
    · rfl

/-- A round changes the session by obtaining, and by nothing else. -/
theorem next_net (r : Running) :
    r.next.2.work.net = { r.work.net.obtain.2 with journal := [] } :=
  congrArg Prod.fst (round_sessionAndSleeps r.options r.path r.work)

/-- A round itself is no sleep. -/
theorem next_sleeps (r : Running) : r.next.2.work.shell.sleeps = r.work.shell.sleeps :=
  congrArg Prod.snd (round_sessionAndSleeps r.options r.path r.work)

end Rounded

end Running

end PrefixDelegation.Command
