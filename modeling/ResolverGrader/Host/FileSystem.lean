import ResolverGrader.IoError
import ResolverGrader.Text.Sorted
import ResolverGrader.Text.Split
import ResolverGrader.Text.Utf8

/-!
# Files

The part of the file system that grading can see: what stands below the working
directory, each entry under the list of the names that lead to it, the
directories above it, and the usual directories and devices of the root.
There are no links, and every file can be reached, read, written and removed
unless the host refuses it.

Every name on a path is looked up where the names before it lead, so each of
these must be a directory, also where a `.` or a `..` follows.  Nothing is
looked up for the last name before the path is used.

Removing and writing change one entry and no other
(`FileSystem.get?_erase_of_ne`, `FileSystem.get?_insert_of_ne`).
-/

namespace ResolverGrader.Host

open ResolverGrader.Text

/-- A file that keeps nothing of what is written to it. -/
inductive Device where
  /-- It takes everything and holds nothing. -/
  | null
  /-- It takes everything and never ends. -/
  | endless
  /-- It takes nothing and never ends. -/
  | full
  deriving DecidableEq, Repr

/-- What is read from a device. -/
def Device.read : Device → Except IoError Octets
  | .null => .ok []
  | .endless | .full => .error .outOfMemory

/-- Why contents cannot be written to a device, if so. -/
def Device.refusal? (contents : Octets) : Device → Option IoError
  | .null | .endless => none
  | .full => if contents = [] then none else some .noSpace

/-- What stands at a path. -/
inductive Entry where
  | file (contents : Octets) (executable : Bool)
  | directory
  | device (device : Device)
  deriving DecidableEq, Repr

/--
Where a path leads, as the names on the way from the working directory.
Leading `..` names go above the working directory, and a leading `/` stands for
the root.
-/
abbrev Trail := List String

/-- The trail of the root. -/
def rootTrail : Trail := ["/"]

/-- What a host can refuse to do with what stands at a trail. -/
inductive Access where
  /-- Following a path on from a directory. -/
  | search
  | read
  | write
  | remove
  deriving DecidableEq, Repr

/--
Why something is refused: it is not permitted, say, or files cannot be changed.
It is never that nothing is there.
-/
structure Refusal where
  error : IoError
  error_ne : error ≠ .notFound
  deriving DecidableEq, Repr

/--
The entries below the working directory and below the root, and what is refused
whatever stands there.
-/
structure FileSystem where
  entries : List (Trail × Entry)
  refusals : List ((Access × Trail) × Refusal) := []
  deriving Repr

/-- The longest name in a path. -/
def maxNameLength : Nat := 255

/-- The longest path. -/
def maxPathLength : Nat := 4095

/--
A path that was followed: where it leads, and whether it may only lead to a
directory.
-/
structure Place where
  trail : Trail
  asksDirectory : Bool
  deriving DecidableEq, Repr

namespace FileSystem

/-- The directories that every root holds. -/
def rootDirectories : List String :=
  ["bin", "boot", "dev", "etc", "home", "lib", "media", "mnt", "opt", "proc",
    "root", "run", "sbin", "srv", "sys", "tmp", "usr", "var"]

/-- The devices that every host has, by their names. -/
def usualDevices : List (String × Device) :=
  [("null", .null), ("zero", .endless), ("random", .endless),
    ("urandom", .endless), ("full", .full)]

/-- The files while the working directory is empty. -/
def bare : FileSystem where
  entries :=
    rootDirectories.map (fun name => (rootTrail ++ [name], .directory)) ++
      usualDevices.map fun (name, device) =>
        (rootTrail ++ ["dev", name], .device device)

/--
Whether a trail leads only up: to the working directory, to one above it or to
the root.
-/
def leadsUp (trail : Trail) : Bool :=
  trail = rootTrail || trail.all (· = "..")

/--
What stands at a trail.  The working directory, those above it and the root are
directories.
-/
def get? (files : FileSystem) (trail : Trail) : Option Entry :=
  if leadsUp trail then some .directory else files.entries.lookup trail

/-- Fails with the reason where an access is refused. -/
def permit (files : FileSystem) (access : Access) (trail : Trail) :
    Except IoError Unit :=
  match files.refusals.lookup (access, trail) with
  | none => .ok ()
  | some refusal => .error refusal.error

/-- What is found when the last name of a trail is looked up. -/
def lookUp (files : FileSystem) (trail : Trail) :
    Except IoError (Option Entry) :=
  if trail.getLast?.any (maxNameLength < ·.utf8ByteSize) then
    .error .nameTooLong
  else .ok (files.get? trail)

/-- One name further along a trail.  Above the root there is only the root. -/
def descend (trail : Trail) (name : String) : Trail :=
  if name = "." then trail
  else if name ≠ ".." then trail ++ [name]
  else if trail = rootTrail then rootTrail
  else if leadsUp trail then trail ++ [name]
  else trail.dropLast

/--
Follows names from a trail, which must be a directory wherever a name follows.
-/
def walk (files : FileSystem) (trail : Trail) :
    List String → Except IoError Trail
  | [] => .ok trail
  | name :: rest => do
    match ← files.lookUp trail with
    | none => .error .notFound
    | some (.file ..) | some (.device _) => .error .notADirectory
    | some .directory =>
      files.permit .search trail
      files.walk (descend trail name) rest

/-- The names between the slashes of a path. -/
def namesIn (path : String) : List String :=
  ((split '/' path.toList).map String.ofList).filter (· ≠ "")

/-- The trail that a path starts from. -/
def startOf (path : String) : Trail :=
  if path.toList.head? = some '/' then rootTrail else []

/-- Whether a path may only lead to a directory. -/
def asksDirectory (path : String) : Bool :=
  path.toList.getLast? = some '/'

/-- The place that a path leads to. -/
def locate (files : FileSystem) (path : String) : Except IoError Place :=
  if path.toList.contains '\x00' then .error .nulInPath
  else if path = "" then .error .notFound
  else if maxPathLength < path.utf8ByteSize then .error .nameTooLong
  else do
    let trail ← files.walk (startOf path) (namesIn path)
    return ⟨trail, asksDirectory path⟩

/-- The contents of a file. -/
def read (files : FileSystem) (path : String) : Except IoError Octets := do
  let place ← files.locate path
  files.permit .read place.trail
  match ← files.lookUp place.trail with
  | none => .error .notFound
  | some .directory => .error .isADirectory
  | some (.file contents _) =>
    if place.asksDirectory then .error .notADirectory else .ok contents
  | some (.device device) =>
    if place.asksDirectory then .error .notADirectory else device.read

/-- The contents of a file that holds text. -/
def readText (files : FileSystem) (path : String) : Except IoError String := do
  match Utf8.decode? (← files.read path) with
  | some text => .ok (String.ofList text)
  | none => .error .notText

/-- The files without the one at a trail. -/
def erase (files : FileSystem) (trail : Trail) : FileSystem :=
  { files with
    entries := files.entries.filter fun entry => entry.1 != trail }

/-- The files with an entry at a trail. -/
def insert (files : FileSystem) (trail : Trail) (entry : Entry) : FileSystem :=
  { files with entries := (trail, entry) :: (files.erase trail).entries }

/-- The files with a directory at a trail where nothing stands. -/
def ensureDirectory (files : FileSystem) (trail : Trail) : FileSystem :=
  if (files.get? trail).isSome then files else files.insert trail .directory

/--
The files with an entry at a path, and with the directories on the way to it.
-/
def install (files : FileSystem) (path : String) (entry : Entry) :
    FileSystem :=
  let trail := (namesIn path).foldl descend (startOf path)
  let parents := (List.range trail.length).tail.map trail.take
  (parents.foldl ensureDirectory files).insert trail entry

/-- Removes a file or a device; directories stay. -/
def remove (files : FileSystem) (path : String) :
    Except IoError FileSystem := do
  let place ← files.locate path
  files.permit .remove place.trail
  match ← files.lookUp place.trail with
  | none => .error .notFound
  | some .directory => .error .isADirectory
  | some (.file ..) | some (.device _) =>
    if place.asksDirectory then .error .notADirectory
    else .ok (files.erase place.trail)

/-- Writes a file, which is created or emptied first. -/
def write (files : FileSystem) (path : String) (contents : Octets) :
    Except IoError FileSystem := do
  let place ← files.locate path
  files.permit .write place.trail
  if place.asksDirectory then .error .isADirectory
  else match ← files.lookUp place.trail with
    | some .directory => .error .isADirectory
    | some (.file _ executable) =>
      .ok (files.insert place.trail (.file contents executable))
    | some (.device device) =>
      match device.refusal? contents with
      | some error => .error error
      | none => .ok files
    | none => .ok (files.insert place.trail (.file contents false))

/-- The names in the working directory. -/
def topNames (files : FileSystem) : List String :=
  distinct
    ((files.entries.filterMap fun entry => entry.1.head?).filter
      fun name => name ≠ ".." ∧ name ≠ "/")

/-- No refusal looks as if nothing were there. -/
theorem permit_ne_notFound
    (files : FileSystem) (access : Access) (trail : Trail) :
    files.permit access trail ≠ .error .notFound := by
  unfold permit
  split
  · nofun
  · next refusal _ =>
    exact fun missing => refusal.error_ne (Except.error.inj missing)

/-- Erasing an entry leaves it at what is refused. -/
@[simp]
theorem permit_erase
    (files : FileSystem) (erased : Trail) (access : Access) (trail : Trail) :
    (files.erase erased).permit access trail = files.permit access trail :=
  rfl

theorem lookup_filter_ne (entries : List (Trail × Entry)) {trail other : Trail}
    (distinct : other ≠ trail) :
    (entries.filter fun entry => entry.1 != trail).lookup other =
      entries.lookup other := by
  induction entries with
  | nil => rfl
  | cons entry rest ih =>
    obtain ⟨key, value⟩ := entry
    by_cases same : key = trail
    · subst same
      have differs : (other == key) = false := by simpa using distinct
      simp [List.lookup_cons, differs, ih]
    · simp only [bne_iff_ne, ne_eq, same, not_false_eq_true,
        List.filter_cons_of_pos, List.lookup_cons, ih]

/-- Erasing an entry leaves every other one as it is. -/
theorem get?_erase_of_ne
    (files : FileSystem)
    {trail other : Trail}
    (distinct : other ≠ trail) :
    (files.erase trail).get? other = files.get? other := by
  simp [get?, erase, lookup_filter_ne _ distinct]

/-- Inserting an entry leaves every other one as it is. -/
theorem get?_insert_of_ne
    (files : FileSystem)
    {trail other : Trail}
    (entry : Entry)
    (distinct : other ≠ trail) :
    (files.insert trail entry).get? other = files.get? other := by
  have differs : (other == trail) = false := by simpa using distinct
  simp [get?, insert, erase, List.lookup_cons, differs,
    lookup_filter_ne _ distinct]

end FileSystem

end ResolverGrader.Host
