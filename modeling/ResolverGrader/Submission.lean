import ResolverGrader.Listener
import ResolverGrader.Settings
import ResolverGrader.Trial

/-!
# Running the submission

One run launches the submission under an instrument, with a listener of its own
that is bound before.  The submission can do nothing that makes a run fail:
only the host can, where the listener cannot be bound, the instrument cannot be
launched or its end cannot be learned.
-/

namespace ResolverGrader.Submission

open ResolverGrader.Host ResolverGrader.Net

/-- The instrument and its own arguments. -/
def instrumentArguments (tools : ToolPaths) : Instrument → List String
  | .syscallTrace => [tools.strace]
  | .memoryCheck =>
    [tools.valgrind, "--tool=memcheck", "--leak-check=full",
      "--error-exitcode=1"]

/-- The program that is launched. -/
def program (tools : ToolPaths) : Instrument → String
  | .syscallTrace => tools.strace
  | .memoryCheck => tools.valgrind

/--
The whole argument list of one run: the instrument, the submission, the query
name and the address of the listener.
-/
def invocation
    (instrument : Instrument)
    (tools : ToolPaths)
    (binary queryName : String)
    (listener : SocketAddress) :
    List String :=
  instrumentArguments tools instrument ++
    [binary, queryName, listener.ip.text, toString listener.port.toNat]

/-- What an execution printed on its two outputs, and how it ended. -/
structure Execution where
  stdout : Octets
  stderr : Octets
  exit : Exit
  deriving DecidableEq, Repr

/-- An execution that was killed, of which no output is kept. -/
def Execution.killed : Execution := ⟨[], [], .timedOut⟩

/-- The execution of a child within a time, given the replies that reach it. -/
def Execution.ofChild
    (runTimeout : Duration)
    (child : Child)
    (replies : List Octets) :
    Except IoError Execution :=
  if runTimeout.isZero || child.outlasts then .ok .killed
  else
    child.status.map fun status =>
      ⟨child.stdout replies, child.stderr, .ofWaitStatus status⟩

/--
The run that an execution makes; the standard error output is the instrument's.
-/
def runOf
    (instrument : Instrument)
    (captured : Octets)
    (execution : Execution) :
    Run :=
  match instrument with
  | .syscallTrace =>
    ⟨captured, execution.stdout, some execution.stderr, none, none,
      execution.exit⟩
  | .memoryCheck =>
    ⟨captured, execution.stdout, none, some execution.stderr,
      some execution.exit, execution.exit⟩

/-- The datagrams that reach a listener before its time is over. -/
def heard (network : Network) (listener : SocketAddress) (timeout : Duration)
    (datagrams : List Datagram) : List Datagram :=
  if timeout.isZero then []
  else
    datagrams.filter fun datagram =>
      network.carries listener datagram.payload

/--
A datagram is heard if the listener has any time at all and the network carries
the datagram to it.
-/
theorem mem_heard
    {network : Network} {listener : SocketAddress} {timeout : Duration}
    {datagrams : List Datagram} {datagram : Datagram} :
    datagram ∈ heard network listener timeout datagrams ↔
      timeout.isZero = false ∧ datagram ∈ datagrams ∧
        network.carries listener datagram.payload = true := by
  unfold heard
  cases timeout.isZero <;> simp

/-- The payloads of the replies that the network carries. -/
def received (network : Network) (replies : List Reply) : List Octets :=
  (replies.filter fun reply =>
    network.carries reply.recipient reply.payload).map Reply.payload

/--
Runs the submission once against a listener that answers with the response.
-/
def run
    (host : Host)
    (settings : Settings)
    (queryName : String)
    (response : Octets)
    (instrument : Instrument) :
    Action Failure Run := do
  let address ← Listener.bind host settings.proxyIp settings.proxyPort
  let tool := program settings.tools instrument
  match ← Action.start host
      (invocation instrument settings.tools settings.build.binary queryName
        address) with
  | .error source => throw (.spawn tool source)
  | .ok child =>
    let (listener, replies) := Listener.deliverAll response .waiting
      (heard host.network address settings.timeout child.datagrams)
    match Execution.ofChild settings.runTimeout child
        (received host.network replies) with
    | .error source => throw (.spawn tool source)
    | .ok execution => return runOf instrument listener.captured execution

end ResolverGrader.Submission
