import PrefixDelegation.Command.Basic

/-!
# Keeping a lease

`run` obtains a lease, keeps it in a file, and obtains it again whenever it is due, in one session.
A round that fails leaves the file alone and is tried again after the retry interval; after a round
that succeeds the wait lasts until the lease has to be renewed.

The rounds go on until something ends the program. So a run is a value between two rounds, and
`Running.next` makes one round of it; `Running.rounds` makes as many as a given number of sleeps
lets it.

Between two rounds the run sleeps, and that ends it too if the sleep is interrupted, or if the time
is none that can be slept. How is up to the `Sleeper`.
-/

namespace PrefixDelegation.Command

/-- What keeping a lease can be given. -/
structure RunOptions where
  connection : Connection
  output : Option String
  retryInterval : Float
  /-- Whether to end after one round. -/
  once : Bool
  logFile : Option String

/-- A record of a command. -/
def commandRecord (level : Level) (text : String) : Record := ⟨.command, level, text⟩

/-- What a round does with its outcome: a lease is kept and shown. The value is how long to wait
for the next round. -/
def concludeRound (o : RunOptions) (path : Option String) : Act (Session Host) Seconds := do
  let session := (← get).net
  match session.error with
  | some e =>
    record [commandRecord .warning ("Obtaining prefix failed: " ++ e.message)]
    return .real o.retryInterval
  | none =>
    saveLease session.lease path
    display session.lease
    orCrash (session.lease.renewDelay (.real o.retryInterval) session.transport.now)

/-- One round: how long to wait after it, unless it is the only one. -/
def round (o : RunOptions) (path : Option String) : Act (Session Host) Seconds := do
  orCrash (← onSession Session.obtain)
  let wait ← concludeRound o path
  if o.once then exit (if (← get).net.error.isSome then 1 else 0)
  record [commandRecord .info ("Next attempt in " ++ Decimal.writeWhole wait.toFloat ++ "s")]
  return wait

/-- Sets up the log again if more is asked of it than the program starts with. -/
def logRun (o : RunOptions) : Act σ Unit := do
  let s ← settings
  let path := (Text.nonempty? o.logFile).or s.logFile
  if o.connection.verbose || path.isSome then
    orCrash (← setUpLog (.brief o.connection.verbose path.isSome s.logLevel path))

/-! ### Round after round -/

/-- A run between two rounds. -/
structure Running where
  options : RunOptions
  /-- Where leases are kept, if they are. -/
  path : Option String
  work : Work (Session Host)

/-- Opens the session in which a lease is kept. -/
def run (o : RunOptions) : Act Network Running := do
  logRun o
  let path ← leasePath o.output
  let session ← openSession o.connection
  return ⟨o, path, ⟨(← get).shell, session⟩⟩

/-- What becomes of the sleeps between rounds. -/
structure Sleeper where
  /-- Whether a time can be slept. -/
  timerError? : Seconds → Option TimerError
  /-- How the program ends when a sleep is interrupted. -/
  interruption : Ending

/-- The longest time that can be slept, in nanoseconds: all that a timer counts up to. -/
def longestSleep : Int := Seconds.timerRange - 1

namespace Running

/-- One round. The value is how long to sleep before the next. -/
def next (r : Running) : Except Ending Seconds × Running :=
  let (result, work) := (round r.options r.path).run r.work
  (result, { r with work })

/-- Sets out to sleep. -/
def lieDown (r : Running) (wait : Seconds) : Running :=
  let shell := r.work.shell
  { r with work := { r.work with shell := { shell with sleeps := shell.sleeps ++ [wait] } } }

/-- One round, behind which the run sets out to sleep. A time that cannot be slept ends the
program. -/
def turn (r : Running) (sleeper : Sleeper) : Except Ending Seconds × Running :=
  match r.next with
  | (.error ending, r) => (.error ending, r)
  | (.ok wait, r) =>
    match sleeper.timerError? wait with
    | some e => (.error (.crash (.timer e)), r.lieDown wait)
    | none => (.ok wait, r.lieDown wait)

/-- Lets time pass on the host. -/
def elapse (r : Running) (wait : Seconds) : Running :=
  let session := r.work.net
  { r with work := { r.work with
      net := { session with transport := session.transport.elapse wait.toFloat } } }

/-- Round after round. After the given number of sleeps the next is interrupted. -/
def rounds (r : Running) (sleeper : Sleeper) : (sleeps : Nat) → Ending × Running
  | 0 =>
    match r.turn sleeper with
    | (.error ending, r) => (ending, r)
    | (.ok _, r) => (sleeper.interruption, r)
  | sleeps + 1 =>
    match r.turn sleeper with
    | (.error ending, r) => (ending, r)
    | (.ok wait, r) => (r.elapse wait).rounds sleeper sleeps

end Running

end PrefixDelegation.Command
