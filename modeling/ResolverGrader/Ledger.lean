import ResolverGrader.Check
import ResolverGrader.Plan

/-!
# Scoring

Each category's points are shared equally among the trials it applies to, and
every trial that passes earns its share.  A category that applies to nothing is
ungraded and earns nothing, but still counts towards the maximum.  If
everything passes, the category earns exactly its maximum, so no rounding of
shares can be seen.
-/

namespace ResolverGrader

/-- What the compiler said about a successful build. -/
structure BuildReport where
  warnings : String
  deriving DecidableEq, Repr

/-- Whether the compiler said nothing. -/
def BuildReport.isClean (report : BuildReport) : Bool :=
  report.warnings.isEmpty

/--
One outcome and the points it earned.  A verdict on the whole submission has no
query name.
-/
structure Verdict (α : Type) where
  queryName : Option String
  outcome : Outcome
  points : α
  pointsPossible : α

/--
The points of one category, with its verdicts in the order of the trials.
-/
structure CategoryScore (α : Type) where
  category : Category
  maxPoints : α
  awarded : α
  graded : Bool
  verdicts : List (Verdict α)

/--
The grade: every category in the order of the plan, and the most points
possible.
-/
structure Ledger (α : Type) where
  categories : List (CategoryScore α)
  maxScore : α

section

variable {α : Type} [Points α]

/-- The points awarded over all categories. -/
def Ledger.total (ledger : Ledger α) : α :=
  Points.sum (ledger.categories.map CategoryScore.awarded)

/-- An outcome together with its share of points, earned if it passed. -/
def Verdict.ofOutcome
    (share : α)
    (queryName : Option String)
    (outcome : Outcome) :
    Verdict α where
  queryName
  outcome
  points := if outcome.isPass then share else Points.ofNat 0
  pointsPossible := share

/-- The points a category earns through its verdicts. -/
def awardedPoints (maxPoints : α) (verdicts : List (Verdict α)) : α :=
  if verdicts.all (·.outcome.isPass) then maxPoints
  else Points.least (Points.sum (verdicts.map Verdict.points)) maxPoints

/-- Shares a category's points among the outcomes that count for it. -/
def CategoryScore.prorate
    (weight : Weight α)
    (outcomes : List (Option String × Outcome)) :
    CategoryScore α :=
  if outcomes = [] then
    ⟨weight.category, weight.maxPoints, Points.ofNat 0, false, []⟩
  else
    let share := Points.share weight.maxPoints outcomes.length
    let verdicts := outcomes.map fun (queryName, outcome) =>
      Verdict.ofOutcome share queryName outcome
    ⟨weight.category, weight.maxPoints,
      awardedPoints weight.maxPoints verdicts, true, verdicts⟩

/--
The outcomes of the trials that a category applies to, each with its query
name.
-/
def applicableOutcomes (category : Category) (trials : List Trial) :
    List (Option String × Outcome) :=
  trials.filterMap fun trial =>
    ((check category trial).filter (·.applies)).map
      fun outcome => (some trial.queryName, outcome)

/--
The outcome of the build, if there was one: a compiler that says anything fails
it.
-/
def buildOutcomes : Option BuildReport → List (Option String × Outcome)
  | none => []
  | some report =>
    if report.isClean then [(none, .pass)]
    else [(none, .fail ("There were compiler warnings.\n" ++
      String.ofList (Text.trimEnd report.warnings.toList)))]

/-- The outcomes that count for a category. -/
def outcomesFor
    (category : Category)
    (trials : List Trial)
    (build : Option BuildReport) :
    List (Option String × Outcome) :=
  match category with
  | .compilerWarnings => buildOutcomes build
  | other => applicableOutcomes other trials

/--
The grade of a submission; without a build the compiler warnings stay ungraded.
-/
def score (plan : Plan α) (trials : List Trial) (build : Option BuildReport) :
    Ledger α where
  categories := plan.weights.map fun weight =>
    .prorate weight (outcomesFor weight.category trials build)
  maxScore := plan.maxScore

end

end ResolverGrader
