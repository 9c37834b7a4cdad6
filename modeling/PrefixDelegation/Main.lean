import PrefixDelegation.Command.Line
import PrefixDelegation.Transport.Answers
import Std.Async.Timer
import Std.Async.UDP
import Std.Internal.UV.System

/-!
# The program

The program itself: it finds out what a command line can depend on, lets the commands of
`Command.Line` do their work on that, and carries over to the real machine what they did. The real
socket is asked one question after the other, as `Transport.Answers` describes. Between two rounds
of a run the program sleeps.

A socket cannot be bound to an address of one link here, so for such an address it is bound to its
port on all addresses of the machine.
-/

namespace PrefixDelegation.Program

open Command Std.Async Std.Net

/-! ### What a command line depends on -/

/-- The clock that only moves forward. -/
def readClock : IO Float := return (← IO.monoNanosNow).toFloat / 1000000000.0

/-- The clock on the wall. -/
def readWallClock : IO Calendar.Moment := do
  let nanoseconds := (← Std.Time.Timestamp.now).toNanosecondsSinceUnixEpoch.val
  return (Calendar.Moment.ofEpoch? (nanoseconds / 1000)).getD .origin

/-- More random transaction identifiers than one negotiation can draw. -/
def drawIds : IO RandomIds :=
  (List.range 16).mapM fun _ => return .ofNat (← IO.rand 0 0xFFFFFF)

/-- The text of a file that can be read. -/
def readText? (path : String) : IO (Option String) := do
  try return String.fromUTF8? (← IO.FS.readBinFile path)
  catch _ => return none

/-- What a file of the system says about an interface. -/
def readProperty (interface property : String) : IO String := do
  let text ← readText? ("/sys/class/net/" ++ interface ++ "/" ++ property)
  return (text.getD "").trimAscii.toString

/-- A network interface. -/
def readInterface (name : String) : IO Interface := do
  let index := (← readProperty name "ifindex").toInt?.getD 0
  match HardwareAddress.read (← readProperty name "address") with
  | .ok address => return ⟨name, index, address⟩
  | .error _ => return ⟨name, index, []⟩

/-- The machine. Its interfaces are those in the table of traffic, after its two lines of
headings. -/
def readMachine : IO Machine := do
  let traffic := ((← readText? "/proc/net/dev").getD "").splitOn "\n"
  let names := (traffic.drop 2).map fun line =>
    (((line.splitOn ":").head?).getD "").trimAscii.toString
  let interfaces ← (names.filter (· ≠ "")).mapM readInterface
  return ⟨interfaces, ← readText? "/proc/net/if_inet6"⟩

/-- The variables of the environment. -/
def readEnvironment : IO Environment :=
  return ⟨(← Std.Internal.UV.System.osEnviron).toList⟩

/-! ### Files -/

/-- The path of a place. -/
def pathOf (place : Place) : String := (Path.mk 1 place).write

/-- Looks at a place, and on the way to it. -/
def explore (files : Files) (place : Place) : IO Files := do
  let mut files := files
  for length in List.range (place.length + 1) do
    let here := place.take length
    if (files.kindAt here).isNone then
      if ← ((← IO.currentDir) / pathOf here).isDir then
        files := { files with directories := files.directories ++ [here] }
      else if ← ((← IO.currentDir) / pathOf here).pathExists then
        files := files.put here ⟨(← readText? (pathOf here)).getD "", []⟩
  return files

/-- The paths that a command line and settings name. -/
def namedPaths (arguments : List String) (s : Settings) : List String :=
  arguments ++ arguments.map (fun a => String.intercalate "=" ((a.splitOn "=").drop 1))
    ++ s.leaseFile.toList ++ s.logFile.toList

/-- The files that a command line can see. -/
def readFiles (arguments : List String) (e : Environment) : IO Files := do
  let home := (Path.read ((e.get? "HOME").getD "/")).names
  let mut files : Files := ⟨home, (Path.read (← IO.currentDir).toString).names, [], []⟩
  for place in Settings.assignmentFiles files do
    files ← explore files place
  let settings := (Settings.ofEnvironment (Settings.loadAssignments files e).2).toOption.getD {}
  for path in namedPaths arguments settings do
    let path := Path.read path
    let place := path.names.foldl Files.step (files.start path)
    files ← explore files place
    files ← explore files (place.dropLast ++ [(place.getLast?.getD "") ++ ".tmp"])
  return files

/-- The time as it stands before the records of a log. -/
def timeStamp : IO String := do
  let text := (← readWallClock).writeChars.take 19
  return String.ofList (text.map fun c => if c = 'T' then ' ' else c)

/-- Carries over what became of a file. A text is first written beside the old one. -/
def keepFile (before : Files) (place : Place) (content : FileContent) : IO Unit := do
  let old := (before.at? place).getD ⟨"", []⟩
  if (before.at? place).isNone then
    IO.FS.createDirAll (pathOf place.dropLast)
    if content.text = "" then IO.FS.writeFile (pathOf place) ""
  if content.text ≠ old.text then
    let beside := pathOf place ++ ".tmp"
    IO.FS.writeFile beside content.text
    IO.FS.rename beside (pathOf place)
  let time ← timeStamp
  IO.FS.withFile (pathOf place) .append fun handle =>
    for record in content.records.drop old.records.length do
      handle.putStr (String.intercalate " | " (time :: record.columns) ++ "\n")

/-- Carries over what became of all files. -/
def keepFiles (before after : Files) : IO Unit :=
  for (place, content) in after.entries do
    if before.at? place ≠ some content then keepFile before place content

/-- Something that the program has to say, as it is said. -/
def noticeText : Notice → IO String
  | .plain text => return text
  | .logged record => return (← timeStamp) ++ " " ++ record.consoleText ++ "\n"

/-- Carries over what a shell wrote, and gives it back with nothing more to carry over. -/
def publish (before : Files) (s : Shell) : IO Shell := do
  for notice in s.notices do
    (← IO.getStderr).putStr (← noticeText notice)
  for text in s.output do
    (← IO.getStdout).putStr text
  (← IO.getStdout).flush
  keepFiles before s.files
  return { s with output := [], notices := [] }

/-! ### The socket -/

/-- A refusal of the operating system. -/
def refusalOf : IO.Error → OsError
  | .permissionDenied _ code details | .invalidArgument _ code details
  | .resourceBusy code details | .otherError code details => ⟨some code.toNat, details⟩
  | e => ⟨none, toString e⟩

/-- The port of an address. -/
def portOf (address : SocketAddress) : UInt16 := .ofNat ((address.numbers.head?.getD 0).toNat)

/-- Where a datagram goes, if its host is given by number. -/
def destination? (target : SocketAddress) : Option Std.Net.SocketAddress :=
  (IPv6Addr.ofString target.host).map fun host => .v6 ⟨host, portOf target⟩

/-- Binds the socket to the port of an address. -/
def bindTo (socket : UDP.Socket) (address : SocketAddress) : IO (Option OsError) := do
  try
    socket.bind (.v6 ⟨IPv6Addr.ofParts 0 0 0 0 0 0 0 0, portOf address⟩)
    return none
  catch e => return some (refusalOf e)

/-- Sends a datagram. -/
def sendTo (socket : UDP.Socket) (data : Octets) (target : SocketAddress) :
    IO (Option Refusal) := do
  match destination? target with
  | none => return some (.os ⟨none, "Name or service not known"⟩)
  | some destination =>
    try
      (socket.send data.toByteArray (some destination)).block
      return none
    catch e => return some (.os (refusalOf e))

/-- The largest datagram. -/
def datagramLimit : UInt64 := 65535

/-- Seconds in milliseconds. -/
def millisecondsOf (seconds : Seconds) : Std.Time.Millisecond.Offset :=
  .ofInt (seconds.toFloat * 1000.0).toUInt32.toNat

/-- Waits for a datagram or for the time to be over. -/
def awaitDatagram (socket : UDP.Socket) (timeout : Seconds) : IO (Option ByteArray) :=
  Async.block do
    Selectable.one #[
      .case (socket.recvSelector datagramLimit) fun (data, _) => return some data,
      .case (← Selector.sleep (millisecondsOf timeout)) fun _ => return none]

/-- Waits for the next arrival. Nothing has come in time if it took as long as the wait. -/
def awaitArrival (socket : UDP.Socket) (timeout : Seconds) : IO Arrival := do
  let begun ← readClock
  let content : Except OsError (Option ByteArray) ← do
    try pure (.ok (← awaitDatagram socket timeout))
    catch e => pure (.error (refusalOf e))
  let delay := (← readClock) - begun
  match content with
  | .ok (some data) => return ⟨delay, .ok data.toList⟩
  | .ok none => return ⟨timeout.toFloat, .ok []⟩
  | .error e => return ⟨delay, .error e⟩

/-- Puts a question to the socket. -/
def ask (socket : UDP.Socket) (a : Answers) : Question → IO Answers
  | .bind address => return a.bound (← bindTo socket address)
  | .send data target _ => return a.sent (← sendTo socket data target)
  | .await timeout => return a.arrived (← awaitArrival socket timeout)

/-- Does something again and again, each time with one more answer of the socket, until no question
is open. -/
partial def converse {α : Type} (socket : UDP.Socket) (act : Host → α)
    (events : α → List SocketEvent) (machine : Machine) : IO α := do
  let clock ← readClock
  let now ← readWallClock
  let rec go (a : Answers) : IO α := do
    let result := act (a.host machine clock now)
    match a.open? (events result) with
    | none => return result
    | some question => go (← ask socket a question)
  go {}

/-! ### From the first argument to the status -/

/-- The status of the program at its end. -/
def conclude : Ending → IO UInt32
  | .exit status => return .ofNat status
  | .usage e => do
    IO.eprintln ("Error: " ++ e.message)
    return 2
  | .guidance text => do
    IO.eprint text
    return 2
  | .crash fault => do
    IO.eprintln fault.message
    return 1

/-- The run on a host, drawing from fresh random identifiers. -/
def onHost (r : Running) (random : RandomIds) (host : Host) : Running :=
  { r with work := { r.work with net := { r.work.net with transport := host, random } } }

/-- How the program sleeps. -/
def sleeper : Sleeper := ⟨Seconds.timerError? longestSleep, .exit 1⟩

/-- Round after round of a run. -/
partial def keepRunning (socket : UDP.Socket) (before : Files) (r : Running) : IO UInt32 := do
  let random ← drawIds
  let (result, r) ← converse socket (fun host => (onHost r random host).turn sleeper)
    (fun outcome => outcome.2.work.net.transport.events) r.work.net.transport.machine
  let after := r.work.shell.files
  let shell ← publish before r.work.shell
  match result with
  | .error ending => conclude ending
  | .ok wait =>
    (Std.Async.sleep (millisecondsOf wait)).block
    keepRunning socket after { r with work := { r.work with shell } }

/-- How deep the documents can be nested that the program reads. -/
def nesting : Json.Nesting := ⟨980, by decide⟩

/-- What a command line asked of the socket so far. -/
def eventsOf : Progress → List SocketEvent
  | .ended _ w => w.net.host.events
  | .running r => r.work.net.transport.events

/-- Carries out a command line. -/
def carryOut (arguments : List String) : IO UInt32 := do
  let environment ← readEnvironment
  let files ← readFiles arguments environment
  let random ← drawIds
  let socket ← UDP.Socket.mk
  let progress ← converse socket
    (fun host =>
      Command.begin arguments ⟨Shell.initial environment files nesting, ⟨host, random⟩⟩)
    eventsOf (← readMachine)
  match progress with
  | .ended ending w => do
    let _ ← publish files w.shell
    conclude ending
  | .running r => do
    let after := r.work.shell.files
    let shell ← publish files r.work.shell
    keepRunning socket after { r with work := { r.work with shell } }

end PrefixDelegation.Program

/-- The command line of the program. -/
def main (arguments : List String) : IO UInt32 := PrefixDelegation.Program.carryOut arguments
