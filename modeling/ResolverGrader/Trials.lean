import ResolverGrader.Exchange
import ResolverGrader.Submission
import ResolverGrader.Trial

/-!
# The sequence of trials

Query names are tried one after the other, and nothing overlaps.  For each name
the trial is announced, the canonical exchange is fetched once, and the
submission is run twice against the very response that was fetched: traced
first, then under the memory checker.  The first stage that fails ends the
whole sequence.

The stages are parameters, so the sequence can be run on a host as well as on a
record of events.
-/

namespace ResolverGrader

/-- The stages that trials are made of. -/
structure Stages (m : Type → Type) where
  announce : String → m Unit
  fetch : String → m Exchange
  run : String → Octets → Instrument → m Run
  /-- The texts of the answers in a response. -/
  answers : Exchange → m (List String)

namespace Stages

variable {m : Type → Type} [Monad m]

/-- The trial of one query name. -/
def trial (stages : Stages m) (queryName : String) : m Trial := do
  stages.announce queryName
  let exchange ← stages.fetch queryName
  let traced ← stages.run queryName exchange.responseWire .syscallTrace
  let checked ← stages.run queryName exchange.responseWire .memoryCheck
  let expectedAnswers ← stages.answers exchange
  return .ofRuns queryName traced checked exchange.query expectedAnswers

/-- The trials of query names, in their order. -/
def trials (stages : Stages m) : List String → m (List Trial)
  | [] => return []
  | queryName :: rest => do
    let first ← stages.trial queryName
    let later ← stages.trials rest
    return first :: later

end Stages

/-- Why a sequence of trials ends early. -/
inductive Halt where
  | failure (failure : Failure)
  /-- An answer has no text, which the program does not survive. -/
  | crash
  deriving DecidableEq, Repr

/-- The notice before the trial of a query name. -/
def announcement (queryName : String) : String :=
  "Running submission for query name \"" ++ queryName ++ "\"...\n"

/-- The stages on a host, given where the exchanges come from. -/
def Stages.onHost
    (host : Host)
    (settings : Settings)
    (fetch : String → Action Failure Exchange) :
    Stages (ExceptT Halt (StateM World)) where
  announce queryName := Action.print (announcement queryName)
  fetch queryName := (fetch queryName).mapError .failure
  run queryName response instrument :=
    (Submission.run host settings queryName response instrument).mapError
      .failure
  answers exchange :=
    match exchange.response.answerTexts? with
    | some texts => return texts
    | none => throw .crash

end ResolverGrader
