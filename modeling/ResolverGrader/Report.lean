import ResolverGrader.Decimal
import ResolverGrader.Ledger

/-!
# The report

The report has a section for each category and ends with a list of the points
and the final score.  Verdicts that failed are always shown with their reason;
verdicts that passed are shown only in a verbose report.

The report is a list of entries, each of which is ended by a line feed.  Only
the reasons of failures, and query names that hold a line feed, take more than
one line.
-/

namespace ResolverGrader.Report

open ResolverGrader.Decimal

/-- Points earned and points possible. -/
def fraction (points possible : Float) : String :=
  twoPlaces points ++ "/" ++ twoPlaces possible

/-- What a verdict is about. -/
def subject : Option String → String
  | some queryName => "\"" ++ queryName ++ "\""
  | none => "submission"

/-- The mark of a passed or failed verdict. -/
def mark (passed : Bool) : String :=
  if passed then "- PASS" else "- FAIL"

/-- The first line of a verdict. -/
def verdictLine (verdict : Verdict Float) : String :=
  mark verdict.outcome.isPass ++ " (" ++
    fraction verdict.points verdict.pointsPossible ++ " pts): " ++
    subject verdict.queryName

/-- The entries of a verdict. -/
def verdictEntries (verdict : Verdict Float) : List String :=
  verdictLine verdict ::
    match verdict.outcome.reason with
    | some reason => ["    Failure reason: ", reason]
    | none => []

/-- The verdicts that a report shows. -/
def shown (verbose : Bool) (verdicts : List (Verdict Float)) :
    List (Verdict Float) :=
  verdicts.filter fun verdict => verbose || !verdict.outcome.isPass

/-- The first line of a category's section. -/
def header (score : CategoryScore Float) : String :=
  "Checking and assigning points for \"" ++ score.category.label ++
    "\" (max " ++ twoPlaces score.maxPoints ++ " points):"

/-- The notice in the section of a category that applies to nothing. -/
def ungradedNotice (score : CategoryScore Float) : String :=
  "Unable to grade section " ++ score.category.label ++
    ", no query names apply."

/-- The last line of a graded category's section. -/
def footer (score : CategoryScore Float) : String :=
  "Done checking for \"" ++ score.category.label ++ "\", awarding " ++
    fraction score.awarded score.maxPoints ++ " points"

/-- The section of a category, with an empty line after it. -/
def sectionEntries (verbose : Bool) (score : CategoryScore Float) :
    List String :=
  header score ::
    (if score.graded then
      (shown verbose score.verdicts).flatMap verdictEntries ++ [footer score]
    else [ungradedNotice score]) ++ [""]

/-- A category's line in the list of points. -/
def summaryLine (score : CategoryScore Float) : String :=
  "- " ++ fraction score.awarded score.maxPoints ++ " " ++
    score.category.label ++ if score.graded then "" else " (ungraded)"

/-- The final score. -/
def finalLine (ledger : Ledger Float) : String :=
  "Final score: " ++ fraction ledger.total ledger.maxScore

/-- The entries of a report. -/
def entries (ledger : Ledger Float) (verbose : Bool) : List String :=
  "" :: ledger.categories.flatMap (sectionEntries verbose) ++
    "Done grading, awarded points:" :: ledger.categories.map summaryLine ++
    ["", finalLine ledger]

/-- The text of a report. -/
def text (ledger : Ledger Float) (verbose : Bool) : String :=
  Text.endLines (entries ledger verbose)

end ResolverGrader.Report
