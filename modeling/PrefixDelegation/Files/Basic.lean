import PrefixDelegation.Fault
import PrefixDelegation.Files.Path
import PrefixDelegation.Journal

/-!
# Files

The files that a program can see: a list of places with their content. A *place* is the list of
names that leads from the root to a file or a directory. A place is a directory when it leads on to
a file, or when it is or leads on to the home directory, the working directory or another directory
that is known.

A path leads to a place name by name, starting at the root or at the working directory, and it can
only lead on from a directory. Names and paths must not be too long, and no path holds the
character zero. A program that is about to write makes the directories that are missing on the
way.

A file is replaced as a whole: the new content is first written beside the old one, under a name
of its own, and then put in its place. So at no time is there a half-written file at the place.
-/

namespace PrefixDelegation

/-- The names that lead from the root to a file or a directory. -/
abbrev Place := List String

/-- What a file holds: a text, and after it the records of a log. -/
structure FileContent where
  text : String
  records : Journal := []
deriving Repr, DecidableEq

/-- The files that a program can see. -/
structure Files where
  home : Place
  workingDirectory : Place
  entries : List (Place × FileContent)
  /-- Other directories. -/
  directories : List Place := []

/-- What can be found at a place. -/
inductive FileKind where
  | file
  | directory
deriving Repr, DecidableEq

namespace Files

/-- The content of the file at a place. -/
def at? (f : Files) (place : Place) : Option FileContent := f.entries.lookup place

/-- Whether a place is a directory, unless a file is there. -/
def leadsOn (f : Files) (place : Place) : Bool :=
  (f.home :: f.workingDirectory :: f.directories).any place.isPrefixOf ||
    f.entries.any fun entry => place.isPrefixOf entry.1 && place ≠ entry.1

/-- What is at a place. -/
def kindAt (f : Files) (place : Place) : Option FileKind :=
  if (f.at? place).isSome then some .file
  else if f.leadsOn place then some .directory
  else none

/-- Gives the file at a place a content. -/
def put (f : Files) (place : Place) (content : FileContent) : Files :=
  { f with entries := f.entries.filter (·.1 ≠ place) ++ [(place, content)] }

/-- Takes the file at a place away. -/
def remove (f : Files) (place : Place) : Files :=
  { f with entries := f.entries.filter (·.1 ≠ place) }

/-! ### Following paths -/

/-- The longest name of a file, in octets. -/
def maxNameLength : Nat := 255

/-- The longest path, in octets. -/
def maxPathLength : Nat := 4095

/-- The place that a name leads to. -/
def step (place : Place) (name : String) : Place :=
  if name = ".." then place.dropLast else place ++ [name]

/-- Follows names from a place. A name only leads on from a directory. -/
def follow (f : Files) : Place → List String → Except OsError Place
  | place, [] => .ok place
  | place, name :: names =>
    match f.kindAt place with
    | none => .error .notFound
    | some .file => .error .notDirectory
    | some .directory =>
      if maxNameLength < name.utf8ByteSize then .error .nameTooLong
      else f.follow (step place name) names

/-- Where following a path starts. -/
def start (f : Files) (p : Path) : Place := if p.slashes = 0 then f.workingDirectory else []

/-- The place that a path leads to, whether something is there or not. -/
def locate (f : Files) (p : Path) : Except Fault Place :=
  if p.write.toList.contains '\x00' then .error .badValue
  else if maxPathLength < p.write.utf8ByteSize then .error (.os .nameTooLong)
  else (f.follow (f.start p) p.names).mapError .os

/-- What a path leads to, if there is something. A path with a slash at its end only leads to a
directory. -/
def kindOf (f : Files) (path : String) : Except Fault (Option FileKind) :=
  match f.locate (.read path) with
  | .error (.os _) => .ok none
  | .error fault => .error fault
  | .ok place =>
    match f.kindAt place with
    | some .file =>
      .ok (if path.endsWith "/" || path.endsWith "/." then none else some .file)
    | some .directory => .ok (if path.isEmpty then none else some .directory)
    | none => .ok none

/-! ### Making directories -/

/-- Makes one directory, where nothing may be. -/
def makeDirectory (f : Files) (p : Path) : Except Fault Files := do
  let place ← f.locate p
  if (f.kindAt place).isSome then throw (.os .alreadyThere)
  return { f with directories := place :: f.directories }

/-- Makes one directory, unless it is there. -/
def ensureDirectory (f : Files) (p : Path) : Except Fault Files :=
  match f.makeDirectory p with
  | .ok made => .ok made
  | .error (.os e) =>
    match f.locate p with
    | .ok place => if f.kindAt place = some .directory then .ok f else .error (.os e)
    | .error _ => .error (.os e)
  | .error fault => .error fault

/-- Makes the directory that names lead to, the last name first, and those on the way to it. -/
def ensureAlong (f : Files) (slashes : Nat) : (reversed : List String) → Except Fault Files
  | [] => f.ensureDirectory ⟨slashes, []⟩
  | name :: before =>
    let p : Path := ⟨slashes, (name :: before).reverse⟩
    match f.makeDirectory p with
    | .error (.os e) =>
      if e = .notFound then do
        let f ← f.ensureAlong slashes before
        f.ensureDirectory p
      else f.ensureDirectory p
    | _ => f.ensureDirectory p

/-- Makes the directory that a path leads through to its last name. -/
def ensureParent (f : Files) (p : Path) : Except Fault Files :=
  f.ensureAlong p.slashes p.names.dropLast.reverse

/-! ### Reading and writing -/

/-- A refusal that names the path. -/
def refusal (e : OsError) (p : Path) : OsError :=
  { e with text := e.text ++ ": " ++ Text.quoted p.write }

/-- The text of a file, with every line ending written as a line feed. -/
def read (f : Files) (p : Path) : Except Fault String :=
  match f.locate p with
  | .error (.os e) => .error (.os (refusal e p))
  | .error fault => .error fault
  | .ok place =>
    match f.at? place with
    | some content => .ok (String.ofList (Text.unifyNewlines content.text.toList))
    | none =>
      .error (.os (refusal (if f.leadsOn place then .isDirectory else .notFound) p))

/-- The place of a file that can be written; the directory must be there. -/
def writable (f : Files) (p : Path) : Except Fault Place := do
  let place ← f.locate p
  if f.kindAt place = some .directory then throw (.os (refusal .isDirectory p))
  return place

/-- The place at which a file can be put that has another name so far. -/
def replaceable (f : Files) (p : Path) : Except Fault Place := do
  let place ← f.locate p
  if p.name? = some ".." then throw (.os .busy)
  if f.kindAt place = some .directory then throw (.os (refusal .isDirectory p))
  return place

/-- Puts a text in the place of a file, making the directories that lead there. Whatever fails,
the file at the place is as it was. -/
def replace (f : Files) (p : Path) (text : String) : Except Fault Unit × Files :=
  match f.ensureParent p with
  | .error fault => (.error fault, f)
  | .ok f =>
    if p.name?.isNone then (.error .badValue, f)
    else match f.writable (p.withSuffix ".tmp") with
      | .error fault => (.error fault, f)
      | .ok beside =>
        match f.replaceable p with
        | .error fault => (.error fault, f.put beside ⟨text, []⟩)
        | .ok place => (.ok (), (f.remove beside).put place ⟨text, []⟩)

/-- Opens a log at the end of a file, making the file and the directories that lead there. -/
def openLog (f : Files) (p : Path) : Except Fault Place × Files :=
  match f.ensureParent p with
  | .error fault => (.error fault, f)
  | .ok f =>
    match f.writable ⟨1, p.names.foldl step (f.start p)⟩ with
    | .error fault => (.error fault, f)
    | .ok place => (.ok place, if (f.at? place).isSome then f else f.put place ⟨"", []⟩)

/-- Writes a record at the end of a log. -/
def append (f : Files) (place : Place) (record : Record) : Files :=
  { f with entries := f.entries.map fun entry =>
      if entry.1 = place then
        (entry.1, { entry.2 with records := entry.2.records ++ [record] })
      else entry }

end Files

end PrefixDelegation
