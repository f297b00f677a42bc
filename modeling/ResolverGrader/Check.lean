import ResolverGrader.Answer
import ResolverGrader.Plan
import ResolverGrader.QueryDiff
import ResolverGrader.Trace
import ResolverGrader.Trial

/-!
# Checks

A check looks at one trial and decides one category.  It may not apply to the
trial; if it applies it passes, or fails for a reason.  Exactly one of the
categories for plain answers, aliases and missing names applies to each trial,
and the expected answers alone decide which.

Compiler warnings concern the submission as a whole, so no check on a trial
decides them.
-/

namespace ResolverGrader

open ResolverGrader.Text

/-- The outcome of a check. -/
structure Outcome where
  applies : Bool
  passed : Option Bool
  reason : Option String
  deriving DecidableEq, Repr

namespace Outcome

/-- The category says nothing about the trial. -/
def notApplicable : Outcome := ⟨false, none, none⟩

/-- The trial passes. -/
def pass : Outcome := ⟨true, some true, none⟩

/-- The trial fails for a reason. -/
def fail (reason : String) : Outcome := ⟨true, some false, some reason⟩

/-- Whether the check passed. -/
def isPass (outcome : Outcome) : Bool :=
  outcome.passed = some true

end Outcome

namespace Check

/-- What makes a line of the memory checker's output worth quoting. -/
def memcheckMarkers : List String :=
  ["ERROR SUMMARY", "definitely lost", "Invalid read", "Invalid write"]

/--
The lines of the memory checker's output that are worth quoting, trimmed.
-/
def memcheckSummary (output : Octets) : List String :=
  ((lines (Utf8.decode output)).filter fun line =>
    memcheckMarkers.any fun marker => hasPart marker.toList line).map
      fun line => String.ofList (trim line)

/-- The memory checker must end with success. -/
def memoryLeaks (trial : Trial) : Outcome :=
  match trial.memcheckExit with
  | none => .fail "Valgrind did not report an exit code."
  | some exit =>
    if exit.isSuccess then .pass
    else
      .fail ("Valgrind exitcode was nonzero (" ++ exit.text ++
        "), indicating a memory error." ++
        String.join
          ((memcheckSummary trial.memcheckOutput).map ("\n    " ++ ·)))

/-- The query must be the expected one, identifiers aside. -/
def wellFormedQuery (trial : Trial) : Outcome :=
  match QueryDiff.drawing? trial.query trial.expectedQuery with
  | none => .pass
  | some drawing => .fail drawing

/--
A query must have been sent, and the trace must show a socket that was read
from.
-/
def sendAndReceive (trial : Trial) : Outcome :=
  if trial.query = [] then .fail "The submission did not send any data"
  else if Trace.showsSocketThenRead (Utf8.decode trial.traceOutput) then .pass
  else .fail "socket() and read() must be called at least once by your program"

/--
The answers must be the expected ones.  A process that did not end with success
fails before anything is compared.
-/
def answersMatch (headline : String) (trial : Trial) : Outcome :=
  if !trial.exit.isSuccess then
    .fail ("Exitcode was nonzero (" ++ trial.exit.text ++
      "), indicating submission likely crashed.")
  else if (Answer.compare trial.answers trial.expectedAnswers).equal then .pass
  else
    .fail (Answer.describeMismatch headline trial.answers
      trial.expectedAnswers)

/-- Expected answers that are addresses only. -/
def findsAnswer (trial : Trial) : Outcome :=
  if trial.expectedAnswers = [] || Answer.hasName trial.expectedAnswers then
    .notApplicable
  else
    answersMatch
      "The resolver did not find the correct answers from the response:" trial

/-- Expected answers with a name among them. -/
def handlesCname (trial : Trial) : Outcome :=
  if trial.expectedAnswers = [] || !Answer.hasName trial.expectedAnswers then
    .notApplicable
  else
    answersMatch
      "The resolver did not find the correct answers from the CNAME response:"
      trial

/-- No expected answers. -/
def handlesNxdomain (trial : Trial) : Outcome :=
  if trial.expectedAnswers ≠ [] then .notApplicable
  else
    answersMatch
      "The resolver did not correctly handle a name that didn't resolve:" trial

/-- The query name of the root. -/
def handlesRoot (trial : Trial) : Outcome :=
  if trial.queryName ≠ "." then .notApplicable
  else
    answersMatch "The resolver did not correctly handle the root name:" trial

end Check

/--
The check of a category on a trial; none for what is decided once for the whole
submission.
-/
def check : Category → Trial → Option Outcome
  | .memoryLeaks, trial => some (Check.memoryLeaks trial)
  | .compilerWarnings, _ => none
  | .wellFormedQuery, trial => some (Check.wellFormedQuery trial)
  | .sendAndReceive, trial => some (Check.sendAndReceive trial)
  | .findsAnswer, trial => some (Check.findsAnswer trial)
  | .handlesCname, trial => some (Check.handlesCname trial)
  | .handlesNxdomain, trial => some (Check.handlesNxdomain trial)
  | .handlesRoot, trial => some (Check.handlesRoot trial)

end ResolverGrader
