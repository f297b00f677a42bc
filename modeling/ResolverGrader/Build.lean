import ResolverGrader.Failure
import ResolverGrader.Host
import ResolverGrader.Ledger
import ResolverGrader.Settings
import ResolverGrader.Text.Utf8

/-!
# Building the submission

The old binary is removed before the compiler is started, so a binary that is
there afterwards was made by this compiler run.  That there was no old binary
is no failure.  What a successful compiler writes to its standard error output
are its warnings.
-/

namespace ResolverGrader.Build

open ResolverGrader.Host ResolverGrader.Text

/-- The arguments of the compiler. -/
def compilerArguments (settings : BuildSettings) : List String :=
  ["-g", settings.source, "-o", settings.binary]

/-- The notice before the old binary is removed. -/
def removalNotice : String :=
  "Removing old resolver executable (if it exists)\n"

/-- The notice before the compiler is started. -/
def compilationNotice (settings : BuildSettings) : String :=
  "Compiling resolver with command: \"" ++
    String.intercalate " " (settings.compiler :: compilerArguments settings) ++
    "\"\n"

/-- Removes the old binary. -/
def removeOldBinary (settings : BuildSettings) : Action Failure Unit := do
  Action.print removalNotice
  match ← Action.removeFile settings.binary with
  | .ok () => return ()
  | .error source =>
    if source = .notFound then return ()
    else throw (.removeBinary settings.binary source)

/--
What the end of the compiler means: only a wait status of zero is a success.
-/
def reportOf (settings : BuildSettings) (compiler : Child) :
    Except Failure BuildReport :=
  let stderr := String.ofList (Utf8.decode compiler.stderr)
  match compiler.status with
  | .error source => .error (.spawn settings.compiler source)
  | .ok status =>
    if status = 0 then .ok ⟨stderr⟩
    else .error (.compile settings.source stderr)

/-- Removes the old binary and compiles the submission. -/
def run (host : Host) (settings : BuildSettings) :
    Action Failure BuildReport := do
  removeOldBinary settings
  Action.print (compilationNotice settings)
  match ← Action.start host
      (settings.compiler :: compilerArguments settings) with
  | .error source => throw (.spawn settings.compiler source)
  | .ok compiler => MonadExcept.ofExcept (reportOf settings compiler)

end ResolverGrader.Build
