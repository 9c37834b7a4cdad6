import PrefixDelegation.Client.Opening
import PrefixDelegation.Command.Arguments
import PrefixDelegation.Console.Table
import PrefixDelegation.Log
import PrefixDelegation.Settings.Basic

/-!
# Commands at work

A command works in a shell: it has preferences and files, a log, a channel for its results and one
for what else it has to say. Beside the shell it has its end of the network, which is a host as
long as no session is open, and the session while one is.

`Act` is the type of what commands do: an action changes the work and gives a value, or ends the
program. However a session comes to its end, `Work.closed` closes it, and closes it once.
-/

namespace PrefixDelegation.Command

/-- How the program ends. -/
inductive Ending where
  | exit (status : Nat)
  | usage (e : UsageError)
  /-- The program was called without arguments and tells how to call it. -/
  | guidance (text : String)
  | crash (fault : Fault)

/-- What the program has to say beside its results. -/
inductive Notice where
  | plain (text : String)
  | logged (r : Record)

/-- What a command works in. -/
structure Shell where
  preferences : Preferences
  files : Files
  log : Log
  /-- Results, in the order in which they were written. -/
  output : List String
  notices : List Notice
  /-- How long the program set out to sleep, each time it did. -/
  sleeps : List Seconds
  /-- How deep a document can be nested that is read. -/
  nesting : Json.Nesting

/-- A host, and the transaction identifiers that it draws. -/
structure Network where
  host : Host
  random : RandomIds

/-- A command at work, with its end of the network. -/
structure Work (σ : Type) where
  shell : Shell
  net : σ

/-- What a command does. -/
abbrev Act (σ α : Type) : Type := ExceptT Ending (StateM (Work σ)) α

variable {σ α : Type}

/-! ### The shell -/

/-- Ends the program with a status. -/
def exit (status : Nat) : Act σ α := throw (.exit status)

/-- Changes the shell. -/
def modifyShell (f : Shell → Shell) : Act σ Unit := modify fun w => { w with shell := f w.shell }

/-- Goes on with a result, and ends the program with a fault. -/
def orCrash : Except Fault α → Act σ α
  | .ok a => pure a
  | .error fault => throw (.crash fault)

/-- Goes on with a result, and ends the program with a usage error. -/
def orUsage : Except UsageError α → Act σ α
  | .ok a => pure a
  | .error e => throw (.usage e)

/-- Writes a result. -/
def say (text : String) : Act σ Unit :=
  modifyShell fun s => { s with output := s.output ++ [text] }

/-- How wide the console is. -/
def consoleWidth : Nat := 80

/-- The lines of a text on the console. -/
def consoleLines (s : List Char) : String :=
  String.ofList ((Console.wrap .fold consoleWidth s).flatMap (· ++ ['\n']))

/-- A text with markup as it appears on the console, in a style. -/
def onConsole (style text : String) : Except Fault String :=
  let marked := "[" ++ style ++ "]" ++ text ++ "[/" ++ style ++ "]"
  ((Console.Markup.plain marked.toList).mapError .markup).map consoleLines

/-- Says something beside the results, in a style. -/
def tell (style text : String) : Act σ Unit := do
  let shown ← orCrash (onConsole style text)
  modifyShell fun s => { s with notices := s.notices ++ [.plain shown] }

/-- Tells what went wrong. -/
def complain (text : String) : Act σ Unit := tell "red" text

/-- Writes a record to wherever the log lets it go. -/
def Shell.record (s : Shell) (r : Record) : Shell :=
  { s with
    notices := if s.log.shows r then s.notices ++ [.logged r] else s.notices
    files := s.log.write s.files r }

/-- Writes records to wherever the log lets them go. -/
def record (journal : Journal) : Act σ Unit := modifyShell fun s => journal.foldl Shell.record s

/-- The settings that count. -/
def settings : Act σ Settings := do
  let s := (← get).shell
  let (settings, preferences) := s.preferences.settle s.files
  modifyShell fun s => { s with preferences }
  orCrash settings

/-- Sets up the log. -/
def setUpLog (r : LogRequest) : Act σ (Except Fault Unit) := do
  let (log, files) := Log.setUp r (← get).shell.files
  modifyShell fun s => { s with files }
  match log with
  | .ok log =>
    modifyShell fun s => { s with log }
    return .ok ()
  | .error fault => return .error fault

/-! ### Sessions -/

/-- What commands that talk to a server can be given. -/
structure Connection where
  interface : Option String
  duid : Option String
  hardwareAddress : Option String
  server : Option String
  timeout : Option Float
  verbose : Bool

/-- The settings that the arguments of a command override. -/
def Connection.overrides (c : Connection) : Settings.Overrides where
  interface := c.interface
  server := c.server
  duid := c.duid.map .text
  hardwareAddress := c.hardwareAddress.map .text
  readTimeout := c.timeout.map .real
  writeTimeout := c.timeout.map .real

/-- Why a session cannot be opened, if the user can be told. -/
def openingComplaint? : Fault → Option String
  | .os e =>
    if e.isPermission then
      some "Error: Permission denied. Binding to port 546 requires root."
    else none
  | .negotiation e => some ("Error: " ++ e.message)
  | fault => if fault.isInValue then some ("Error: " ++ fault.message) else none

/-- Opens a session, or tells why there is none. -/
def openSession (c : Connection) : Act Network (Session Host) := do
  let config := (← settings).clientConfig c.overrides
  let net := (← get).net
  let opening := config.openSession net.random net.host
  modify fun w => { w with net := { w.net with host := opening.host } }
  record opening.journal
  match opening.outcome with
  | .ok session => return session
  | .error fault =>
    match openingComplaint? fault with
    | some complaint =>
      complain complaint
      exit 1
    | none => throw (.crash fault)

/-- The work that is left when the session is closed. -/
def Work.closed (w : Work (Session Host)) : Work Network where
  shell := w.shell
  net := ⟨w.net.close.transport, w.net.random⟩

/-- Does something with a session, and closes it. -/
def withSession (session : Session Host) (act : Act (Session Host) α) : Act Network α :=
  ExceptT.mk fun w =>
    let (result, w) := act.run ⟨w.shell, session⟩
    (result, w.closed)

/-- Lets a session do something, and writes down what it has to say. -/
def onSession (f : Session Host → α × Session Host) : Act (Session Host) α := do
  let (a, session) := f (← get).net
  modify fun w => { w with net := { session with journal := [] } }
  record session.journal
  return a

/-! ### Leases -/

/-- A text as it appears in a table; null is nothing to show. -/
def cellOf : Json → Except Fault String
  | .text s => .ok s
  | .null => .ok ""
  | _ => .error .unshowable

/-- Rows for values that belong together: the label stands at the first. -/
def rowsOf (label : String) : List String → List Console.Row
  | [] => [⟨label, "N/A"⟩]
  | first :: rest => ⟨label, first⟩ :: rest.map (⟨"", ·⟩)

/-- A lease as a table. -/
def tableOf (l : Lease) : Except Fault Console.Table := do
  let nameServers ← l.nameServers.mapM cellOf
  let due := if l.isHeld then l.renewAfter.write else "unknown"
  return {
    title := "DHCPv6 Prefix Delegation"
    rows := rowsOf "Prefix" (l.networks.map (·.write)) ++ rowsOf "DNS Servers" nameServers
      ++ [⟨"Renew After", due⟩] }

/-- Shows a lease. -/
def display (l : Lease) : Act σ Unit := do
  let table ← orCrash (tableOf l)
  say (← orCrash ((table.render consoleWidth).mapError .markup))

/-- Puts a lease in the place of a file, if there is a path. -/
def saveLease (l : Lease) : Option String → Act σ Unit
  | none => pure ()
  | some path => do
    let (outcome, files) := l.save (← get).shell.files (.read path)
    modifyShell fun s => { s with files }
    orCrash outcome

/-- Where leases are kept: where the command says, or else where the settings say. -/
def leasePath (given : Option String) : Act σ (Option String) :=
  return (Text.nonempty? given).or (← settings).leaseFile

end PrefixDelegation.Command
