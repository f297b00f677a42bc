import ResolverGrader.Build
import ResolverGrader.CommandLine
import ResolverGrader.Csv
import ResolverGrader.QueryNames
import ResolverGrader.Report
import ResolverGrader.Server
import ResolverGrader.SummaryTable
import ResolverGrader.Trials

/-!
# The program

The command line says what to grade.  The query names, the address of the
listener and the address of the DNS server are settled before anything is done;
then the submission is built, tried with every name, and its grade is shown as
a report and a table and perhaps written to a file.

Whatever the grade, the program succeeds.  It stops early only where its
surroundings fail.
-/

namespace ResolverGrader

open ResolverGrader.CommandLine ResolverGrader.Host ResolverGrader.Net
open ResolverGrader.Text

/-- Why the program stops early. -/
inductive Stop where
  | queryNames (error : QueryNames.FileError)
  | listenerAddress (text : String)
  | serverAddress (error : Server.AddressError)
  | failure (failure : Failure)
  | verdictFile (source : IoError)
  | crash
  deriving DecidableEq, Repr

namespace Stop

/-- The message of a stop; a crash has none. -/
def message : Stop → String
  | .queryNames error => error.message
  | .listenerAddress text =>
    "invalid proxy address '" ++ text ++ "': invalid IP address syntax"
  | .serverAddress error => error.message
  | .failure reason => reason.message
  | .verdictFile source => source.message
  | .crash => ""

/--
The error of the operating system behind a stop, if it is shown as its cause.
-/
def cause? : Stop → Option IoError
  | .failure reason => reason.source?
  | .verdictFile source => some source
  | _ => none

/-- What is written about a stop at the end of the program. -/
def text : Stop → String
  | .crash => ""
  | stop =>
    "Error: " ++ stop.message ++ "\n" ++
      match stop.cause? with
      | some source => "\nCaused by:\n    " ++ source.message ++ "\n"
      | none => ""

/-- The code that the program ends with. -/
def exitCode : Stop → Nat
  | .crash => 101
  | _ => 1

end Stop

/-- The halt of a sequence of trials as a stop of the program. -/
def Halt.toStop : Halt → Stop
  | .failure reason => .failure reason
  | .crash => .crash

namespace Program

/-- The names that a command line asks for. -/
def requestedNames (files : FileSystem) (arguments : Arguments) :
    Except Stop (List String) :=
  match arguments.domainFile with
  | none => .ok (QueryNames.choose arguments.domains [])
  | some path =>
    match QueryNames.ofFile files path with
    | .ok names => .ok (QueryNames.choose arguments.domains names)
    | .error error => .error (.queryNames error)

/-- The address of the listener. -/
def listenerAddress (text : String) : Except Stop IpAddress :=
  match IpAddress.parse? text.toList with
  | some address => .ok address
  | none => .error (.listenerAddress text)

/-- The address of the DNS server. -/
def serverAddress (text : String) : Except Stop SocketAddress :=
  match Server.parseAddress text with
  | .ok address => .ok address
  | .error error => .error (.serverAddress error)

/-- The settings that a command line makes with the two addresses in it. -/
def settingsOf
    (arguments : Arguments)
    (proxyIp : IpAddress)
    (server : SocketAddress) :
    Settings where
  proxyIp
  proxyPort := arguments.port
  timeout := .ofSeconds arguments.timeout
  runTimeout := .ofSeconds arguments.runTimeout
  server
  tools := ⟨arguments.strace, arguments.valgrind⟩
  build :=
    ⟨arguments.cc, arguments.source, arguments.binary, arguments.noCompile⟩
  verbose := arguments.verbose

/--
Everything that is settled before anything is done: first the names, then the
address of the listener, then that of the server.
-/
def prepare (files : FileSystem) (arguments : Arguments) :
    Except Stop (Settings × List String) := do
  let names ← requestedNames files arguments
  let proxyIp ← listenerAddress arguments.proxyIp
  let server ← serverAddress arguments.dnsServer
  return (settingsOf arguments proxyIp server, names)

/-- Builds the submission, unless an existing binary is to be graded. -/
def build (host : Host) (settings : Settings) :
    Action Stop (Option BuildReport) :=
  if settings.build.skip then return none
  else some <$> (Build.run host settings.build).mapError .failure

/-- Tries the submission with every name. -/
def trials (host : Host) (settings : Settings) (names : List String) :
    Action Stop (List Trial) :=
  Action.mapError Halt.toStop
    ((Stages.onHost host settings (Exchange.fetch host settings)).trials names)

/-- The notice after the verdicts have been written to a file. -/
def verdictNotice (path : String) : String :=
  "\nResults written to: " ++ path ++ "\n"

/-- Writes the verdicts to a file. -/
def writeVerdicts (path : String) (ledger : Ledger Float) :
    Action IoError Unit := do
  match ← Action.writeFile path (Utf8.encode (Csv.text ledger).toList) with
  | .ok () => Action.print (verdictNotice path)
  | .error source => throw source

/-- Shows a grade, and writes the verdicts to a file if one is named. -/
def publish (ledger : Ledger Float) (verbose : Bool) (output : Option String) :
    Action Stop Unit := do
  Action.print (Report.text ledger verbose)
  Action.print "\n"
  Action.print (SummaryTable.text ledger)
  match output with
  | none => return ()
  | some path => (writeVerdicts path ledger).mapError .verdictFile

/-- Grades a submission as the command line says. -/
def run (host : Host) (arguments : Arguments) : Action Stop Unit := do
  let (settings, names) ←
    MonadExcept.ofExcept (prepare (← get).files arguments)
  Action.print (settings.summary names)
  let report ← build host settings
  let results ← trials host settings names
  publish (score .standard results report) settings.verbose arguments.output

/-- What can be seen of a run of the program when it has ended. -/
structure Ending where
  exitCode : Nat
  stdout : String
  stderr : String
  world : World

/-- The ending after an action on a world. -/
def endingOf : Except Stop Unit × World → Ending
  | (.ok (), world) => ⟨0, world.stdout, "", world⟩
  | (.error stop, world) => ⟨stop.exitCode, world.stdout, stop.text, world⟩

/-- Runs the program with an argument list that can be understood. -/
def execute (host : Host) (files : FileSystem) (arguments : List String) :
    Except UsageError Ending :=
  (parse arguments).map fun arguments =>
    endingOf ((run host arguments).runOn (.initial files))

end Program

end ResolverGrader
