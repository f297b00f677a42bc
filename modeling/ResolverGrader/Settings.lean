import ResolverGrader.Duration
import ResolverGrader.Net.Address
import ResolverGrader.Text.Split

/-!
# Settings

What a grading run is told: where the listener stands in for a DNS server,
where the real one is, how long to wait, and which tools to use.
-/

namespace ResolverGrader

open ResolverGrader.Net

/-- The instruments that the submission is run under. -/
structure ToolPaths where
  strace : String
  valgrind : String
  deriving DecidableEq, Repr

/-- How the submission is built. -/
structure BuildSettings where
  compiler : String
  source : String
  binary : String
  /-- Whether a binary that exists already is graded instead. -/
  skip : Bool
  deriving DecidableEq, Repr

/-- The settings of a grading run. -/
structure Settings where
  proxyIp : IpAddress
  /-- The fixed port to listen on; without one each listener draws its own. -/
  proxyPort : Option UInt16
  /--
  How long the listener waits for a query, and the grader for the server.
  -/
  timeout : Duration
  /-- How long a run of the submission may take. -/
  runTimeout : Duration
  server : SocketAddress
  tools : ToolPaths
  build : BuildSettings
  verbose : Bool

/-- The lines of the summary that is shown before a run. -/
def Settings.summaryLines (settings : Settings) (queryNames : List String) :
    List String :=
  ["DNS Resolver Grader Configuration",
    "=================================",
    "Resolver:       " ++ settings.build.binary,
    "Upstream:       " ++ settings.server.text,
    "Proxy:          " ++ settings.proxyIp.text ++ " (port " ++
      (match settings.proxyPort with
        | some port => toString port.toNat
        | none => "random") ++ ")",
    "Timeout:        " ++ settings.timeout.text ++ " s",
    "Run timeout:    " ++ settings.runTimeout.text ++ " s",
    "Query names:    " ++ toString queryNames.length] ++
    queryNames.map ("  - " ++ ·) ++ [""]

/-- The summary that is shown before a run. -/
def Settings.summary (settings : Settings) (queryNames : List String) :
    String :=
  Text.endLines (settings.summaryLines queryNames)

end ResolverGrader
