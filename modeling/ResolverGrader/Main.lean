import ResolverGrader.Program

/-!
# The command line program

The outermost layer: it reads the files that the command line names, runs the
program on them, and carries out what the program decided to print, to write
and to remove.  Processes are not started and sockets are not opened from here,
so a run that needs either of them ends with the failure that says so.
-/

namespace ResolverGrader.CommandLine

open ResolverGrader.Host

/-- A host that starts no process and sends nothing. -/
def restrictedHost (seed : Nat) : Host where
  network := .withoutRoutes []
  random count := seed + count
  launch _ _ := .error .notImplemented
  serverReceipts _ _ := []

/-- The octets of a file, if it can be read. -/
def contentsOf? (path : String) : IO (Option Octets) := do
  try
    return some (← IO.FS.readBinFile path).toList
  catch _ => return none

/-- The files at the given paths. -/
def filesAt (paths : List String) : IO FileSystem := do
  let mut files : FileSystem := .bare
  for path in paths do
    if let some contents ← contentsOf? path then
      files := files.install path (.file contents false)
  return files

/-- Carries an effect out. -/
def carryOut : Effect → IO Unit
  | .printed text => IO.print text
  | .removed path => IO.FS.removeFile path
  | .wrote path contents => IO.FS.writeBinFile path ⟨contents.toArray⟩
  | .bound _ | .started _ | .asked _ _ => return ()

/-- Runs the program with the arguments of the command line. -/
def runProgram (arguments : List String) : IO UInt32 := do
  match parse arguments with
  | .error error =>
    let names := Switch.all.map ("--" ++ ·.longName)
    IO.eprintln (String.intercalate " " ("switches:" :: names))
    return UInt32.ofNat error.exitCode
  | .ok parsed =>
    let paths :=
      parsed.domainFile.toList ++ [parsed.binary] ++ parsed.output.toList
    let files ← filesAt paths
    let seed ← IO.rand 0 65535
    let (outcome, world) :=
      (Program.run (restrictedHost seed) parsed).runOn (.initial files)
    for effect in world.effects do
      carryOut effect
    match outcome with
    | .ok () => return 0
    | .error stop =>
      IO.eprint stop.text
      return UInt32.ofNat stop.exitCode

end ResolverGrader.CommandLine

/-- The entry point. -/
def main (arguments : List String) : IO UInt32 :=
  ResolverGrader.CommandLine.runProgram arguments
