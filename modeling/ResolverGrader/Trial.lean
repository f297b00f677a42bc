import ResolverGrader.Answer
import ResolverGrader.Text.Octets

/-!
# Runs and trials

The submission is executed twice for each query name.  An execution ends in one
of several ways and leaves a run behind, and two runs make a trial.
-/

namespace ResolverGrader

/-!
## How a process ends

A process ends by itself with a code, is ended by a signal, or is killed when
its time is over.  Only the code zero is a success.
-/

/-- The end of a process. -/
inductive Exit where
  | exited (code : Int32)
  | signaled (signal : Int32)
  | timedOut
  deriving DecidableEq, Repr

namespace Exit

/-- Whether a process ended with the code zero. -/
def isSuccess (exit : Exit) : Bool :=
  exit = .exited 0

/-- The text of an end. -/
def text : Exit → String
  | .exited code => toString code.toInt
  | .signaled signal => "killed by signal " ++ toString signal.toInt
  | .timedOut => "timed out"

/--
The end that a wait status reports.  The low seven bits are zero after a normal
end, whose code is the next octet; they are all one for a process that only
stopped or went on, which counts as the code -1; otherwise they are the signal.
-/
def ofWaitStatus (status : UInt32) : Exit :=
  let low := status.toNat % 128
  if low = 0 then .exited (Int32.ofNat (status.toNat / 256 % 256))
  else if low = 127 then .exited (-1)
  else .signaled (Int32.ofNat low)

theorem isSuccess_iff (exit : Exit) :
    exit.isSuccess = true ↔ exit = .exited 0 := by
  simp [isSuccess]

end Exit

/-!
## Instrumented runs

The submission is executed under one of two instruments, and what an execution
leaves behind is recorded as a run.
-/

/-- The instrument around one execution of the submission. -/
inductive Instrument where
  | syscallTrace
  | memoryCheck
  deriving DecidableEq, Repr

/--
What one execution left behind: the datagram that was captured (no octets if
none arrived), the standard output, what the instrument itself wrote, and how
the process ended.
-/
structure Run where
  request : Octets
  stdout : Octets
  traceOutput : Option Octets
  memcheckOutput : Option Octets
  memcheckExit : Option Exit
  exit : Exit
  deriving DecidableEq, Repr

/-!
## Trials

A trial is everything that is known about the submission for one query name:
two runs merged into one, beside the query and the answers that were expected.
-/

/--
The evidence for one query name.  Both lists of answers are in normal form and
sorted.
-/
structure Trial where
  queryName : String
  answers : List String
  expectedAnswers : List String
  query : Octets
  expectedQuery : Octets
  traceOutput : Octets
  memcheckOutput : Octets
  memcheckExit : Option Exit
  exit : Exit
  deriving DecidableEq, Repr

/--
Merges two runs.  The traced run gives the query, the printed answers, the
trace and the end of the process; the checked run gives the memory checker's
output and end, and nothing else.
-/
def Trial.ofRuns
    (queryName : String)
    (traced checked : Run)
    (expectedQuery : Octets)
    (expectedAnswers : List String) :
    Trial where
  queryName
  answers := Text.sorted (Answer.normalizeAll (Answer.ofOutput traced.stdout))
  expectedAnswers := Text.sorted (Answer.normalizeAll expectedAnswers)
  query := traced.request
  expectedQuery
  traceOutput := traced.traceOutput.getD []
  memcheckOutput := checked.memcheckOutput.getD []
  memcheckExit := checked.memcheckExit
  exit := traced.exit

end ResolverGrader
