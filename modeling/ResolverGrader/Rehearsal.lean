import ResolverGrader.Host
import ResolverGrader.Program
import ResolverGrader.Text.Digits
import ResolverGrader.Text.Utf8

/-!
# Rehearsals

A rehearsal runs the grader in a directory whose tools and whose DNS server
follow a script, so that everything there is to see follows from the scripts.
-/

namespace ResolverGrader.Rehearsal

open ResolverGrader.Host ResolverGrader.Net ResolverGrader.Text

/-!
## Scripted tools

A scripted tool takes the place of an instrument or a compiler.  It first sends
its datagrams, then prints what it is told to, and ends by hanging, by a signal
or with a code.
-/

/-- What a scripted tool does. -/
structure Script where
  /-- The datagrams that it sends to the listener. -/
  sends : List Octets
  /-- Whether it prints the reply that it got. -/
  showsReply : Bool
  /-- Whether it creates the file that its last argument names. -/
  creates : Bool
  /-- Whether it prints its arguments. -/
  showsArguments : Bool
  stdout : Octets
  stderr : Octets
  /-- Whether it outlasts every deadline. -/
  hangs : Bool
  /-- The signal that ends it. -/
  signal : Option UInt8
  /-- The code that it ends with otherwise. -/
  exitCode : UInt8
  deriving DecidableEq, Repr

namespace Script

/-- A tool that does nothing and succeeds. -/
def idle : Script where
  sends := []
  showsReply := false
  creates := false
  showsArguments := false
  stdout := []
  stderr := []
  hangs := false
  signal := none
  exitCode := 0

/-- The line about the reply, which leaves the identifier out. -/
def replyLine (replies : List Octets) : String :=
  "reply " ++
    (match replies.head? with
      | some reply => (Octets.hex (reply.drop 2))
      | none => "none") ++ "\n"

/--
The line about the arguments, which leaves the last one out: a port that
differs from run to run.
-/
def argumentLine (arguments : List String) : String :=
  "args " ++ String.intercalate "|" arguments.dropLast ++ "\n"

/-- The octets of a line that is printed only if asked for. -/
def lineIf (wanted : Bool) (line : String) : Octets :=
  if wanted then Utf8.encode line.toList else []

/-- The wait status at the end of a tool. -/
def waitStatus (script : Script) : UInt32 :=
  match script.signal with
  | some signal => signal.toUInt32 % 128
  | none => script.exitCode.toUInt32 * 256

/-- The file that a tool creates is the one that its last argument names. -/
def create (arguments : List String) (files : FileSystem) : FileSystem :=
  match arguments.getLast? with
  | none => files
  | some path => (files.write path []).toOption.getD files

/--
The process that carries a script out, given its arguments and the address it
sends from.
-/
def child
    (script : Script)
    (client : SocketAddress)
    (arguments : List String) :
    Child where
  datagrams := script.sends.map fun payload => ⟨client, payload⟩
  stdout replies :=
    lineIf script.showsReply (replyLine replies) ++
      lineIf script.showsArguments (argumentLine arguments) ++ script.stdout
  stderr := script.stderr
  outlasts := script.hangs
  status := .ok script.waitStatus
  changes := if script.creates then create arguments else id

end Script

end ResolverGrader.Rehearsal

namespace ResolverGrader

open ResolverGrader.Host ResolverGrader.Net ResolverGrader.Text

/-! ## The stage -/

/-- How the identifier of a scripted datagram comes from the query. -/
inductive IdRule where
  /-- The identifier of the query. -/
  | copied
  /-- Every bit of it inverted. -/
  | inverted
  /-- The identifier that is written in the script. -/
  | scripted
  deriving DecidableEq, Repr

/-- A datagram that the scripted server sends. -/
structure ScriptedDatagram where
  idRule : IdRule
  wire : Octets
  deriving DecidableEq, Repr

/-- The datagram as it is sent in answer to a query. -/
def ScriptedDatagram.answerTo (datagram : ScriptedDatagram) (query : Octets) :
    Octets :=
  match datagram.idRule with
  | .copied => (query.take 2).take datagram.wire.length ++ datagram.wire.drop 2
  | .inverted =>
    ((query.take 2).map fun octet => ~~~octet).take datagram.wire.length ++
      datagram.wire.drop 2
  | .scripted => datagram.wire

/-- A directory, and the scripts for what is run there. -/
structure Rehearsal where
  files : FileSystem
  /-- What the tracer does for a query name. -/
  tracer : String → Rehearsal.Script
  /-- What the memory checker does for a query name. -/
  checker : String → Rehearsal.Script
  compiler : Rehearsal.Script
  /-- What the server sends for each query. -/
  server : List (List ScriptedDatagram)
  /--
  Whether tools that are named without a directory are found among the files.
  -/
  onSearchPath : Bool

namespace Rehearsal

/-- The names of the scripted tools. -/
def toolNames : List String := ["strace", "valgrind", "gcc", "cc"]

/-- An address of the local host. -/
def localAddress (port : UInt16) : SocketAddress := .v4 .loopback port

/-- Where the scripted server is reached. -/
def scriptedServer : SocketAddress := localAddress 5300

/-- Where scripted tools and clients send from. -/
def client : SocketAddress := localAddress 40000

/--
The files with one more; a name that ends in a slash is that of a directory.
-/
def addFile (files : FileSystem) (name : String) (contents : Octets) :
    FileSystem :=
  files.install name
    (if FileSystem.asksDirectory name then .directory
      else .file contents false)

/-- The directory with the given files. -/
def directory (contents : List (String × Octets)) : FileSystem :=
  contents.foldl (fun files entry => addFile files entry.1 entry.2) .bare

/-- The files together with the scripted tools. -/
def withTools (files : FileSystem) : FileSystem :=
  toolNames.foldl (fun files name => files.insert [name] (.file [] true)) files

/-- The names in a directory, without the scripted tools, in order. -/
def listing (files : FileSystem) : List String :=
  sorted (files.topNames.filter fun name => !toolNames.contains name)

/-- The length from which on an argument is too long. -/
def maxArgument : Nat := 131072

/-- The path under which a program is looked for. -/
def programPath (rehearsal : Rehearsal) (program : String) :
    Except IoError String :=
  if program.toList.contains '/' then .ok program
  else if rehearsal.onSearchPath && program ≠ "" then .ok ("./" ++ program)
  else .error .notFound

/--
The executable that a program name stands for, by the names that lead to it.
-/
def executable
    (rehearsal : Rehearsal)
    (files : FileSystem)
    (program : String) :
    Except IoError Trail := do
  let place ← files.locate (← rehearsal.programPath program)
  match ← files.lookUp place.trail with
  | none => .error .notFound
  | some .directory => .error .permissionDenied
  | some (.device _) =>
    .error (if place.asksDirectory then .notADirectory else .permissionDenied)
  | some (.file _ isExecutable) =>
    if place.asksDirectory then .error .notADirectory
    else if isExecutable then .ok place.trail
    else .error .permissionDenied

/-- The query name among the arguments of an instrument: the last but two. -/
def queryNameIn (arguments : List String) : Option String :=
  arguments.reverse[2]?

/-- The script of a tool. -/
def scriptOf (rehearsal : Rehearsal) (tool : Trail) (arguments : List String) :
    Script :=
  let forQueryName (scripts : String → Script) : Script :=
    match queryNameIn arguments with
    | some queryName => scripts queryName
    | none => .idle
  match tool with
  | ["strace"] => forQueryName rehearsal.tracer
  | ["valgrind"] => forQueryName rehearsal.checker
  | ["gcc"] | ["cc"] => rehearsal.compiler
  | _ => .idle

/-- What an argument list starts. -/
def launch (rehearsal : Rehearsal) (files : FileSystem) :
    List String → Except IoError Child
  | [] => .error .notFound
  | program :: arguments => do
    if (program :: arguments).any fun argument =>
        argument.toList.contains '\x00' then
      throw .nulInArgument
    let tool ← rehearsal.executable files program
    if (program :: arguments).any fun argument =>
        maxArgument ≤ argument.utf8ByteSize then
      throw .argumentsTooLong
    return (rehearsal.scriptOf tool arguments).child client arguments

/--
What the server sends for a query; after that nothing comes until the deadline.
-/
def serverReceipts (rehearsal : Rehearsal) (count : Nat) (query : Octets) :
    List Receipt :=
  (rehearsal.server.getD count []).map fun datagram =>
    .datagram (datagram.answerTo query)

/-- The host of a rehearsal on a network. -/
def host (rehearsal : Rehearsal) (network : Network) : Host where
  network
  random count := 40503 * count + 16962
  launch := rehearsal.launch
  serverReceipts := rehearsal.serverReceipts

/-- The scripted exchanges: each name has the wire form of its response. -/
def fetch
    (id : UInt16)
    (responses : String → Option Octets)
    (queryName : String) :
    Action Failure Exchange := do
  let unavailable : SocketAddress := .v4 ⟨192, 0, 2, 53⟩ 53
  match Dns.canonicalQuery queryName id with
  | .error error => throw (.invalidName queryName error.message)
  | .ok query =>
    match responses queryName with
    | none => throw (.server queryName unavailable "no script")
    | some wire =>
      match Dns.Message.decode? wire with
      | none => throw (.server queryName unavailable "unparsable")
      | some response => return ⟨query, response, wire⟩

/-- Tries the submission with every name, against scripted exchanges. -/
def trials
    (rehearsal : Rehearsal)
    (network : Network)
    (settings : Settings)
    (id : UInt16)
    (responses : String → Option Octets)
    (names : List String) :
    Except Halt (List Trial) × World :=
  Action.runOn
    ((Stages.onHost (rehearsal.host network) settings
      (fetch id responses)).trials names)
    (.initial rehearsal.files)

/-- Why a listener could not be used. -/
inductive Mishap where
  | listener (failure : Failure)
  | client (error : IoError)
  deriving DecidableEq, Repr

/-- What a client and its listener have when both are done. -/
structure Conversation where
  address : SocketAddress
  captured : Octets
  replies : List Octets
  deriving DecidableEq, Repr

/-- A client sends datagrams to a listener. -/
def converse
    (network : Network)
    (ip : IpAddress)
    (port : Option UInt16)
    (timeout : Duration)
    (response : Octets)
    (payloads : List Octets) :
    Except Mishap Conversation := do
  let nobody : Rehearsal :=
    ⟨.bare, fun _ => .idle, fun _ => .idle, .idle, [], false⟩
  let bound :=
    (Listener.bind (nobody.host network) ip port).runOn (.initial .bare)
  let address ← bound.1.mapError .listener
  match payloads.findSome? (network.sendError? address) with
  | some error => throw (.client error)
  | none =>
    let (listener, replies) := Listener.deliverAll response .waiting
      (Submission.heard network address timeout
        (payloads.map fun payload => ⟨client, payload⟩))
    return ⟨address, listener.captured, Submission.received network replies⟩

/--
The scripted server can be asked only over a network that carries datagrams to
it.
-/
def withServer {α : Type} (network : Network) (result : α) : Option α :=
  if network.carries scriptedServer [] then some result else none

/-- The canonical exchange with the scripted server. -/
def resolve (rehearsal : Rehearsal) (network : Network) (settings : Settings)
    (queryName : String) : Option (Except Failure Exchange × World) :=
  let settings := { settings with server := scriptedServer }
  withServer network
    ((Exchange.fetch (rehearsal.host network) settings queryName).runOn
      (.initial rehearsal.files))

/-- A whole run of the program with the scripted server. -/
def grade
    (rehearsal : Rehearsal)
    (network : Network)
    (arguments : List String) :
    Option (Except CommandLine.UsageError Program.Ending) :=
  withServer network
    (Program.execute (rehearsal.host network) rehearsal.files arguments)

end Rehearsal

end ResolverGrader
