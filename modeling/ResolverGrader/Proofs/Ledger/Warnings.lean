import ResolverGrader.Proofs.Ledger.Proration

/-!
# The worth of compiler warnings

A build that succeeded gives the compiler warnings one verdict.  If the
compiler said nothing the verdict earns all there is to earn, without any
arithmetic; otherwise it earns nothing.  What is awarded then is nothing too,
unless the plan makes the warnings worth less than that.
-/

namespace ResolverGrader

/-- A score that some grade holds for the compiler warnings of a report. -/
def IsWarningsScore {α : Type} [Points α]
    (report : BuildReport) (score : CategoryScore α) : Prop :=
  score.category = .compilerWarnings ∧
    ∃ (plan : Plan α) (trials : List Trial),
      score ∈ (ResolverGrader.score plan trials (some report)).categories

theorem IsWarningsScore.eq_prorate
    {α : Type} [Points α] {report : BuildReport} {score : CategoryScore α}
    (isScore : IsWarningsScore report score) :
    ∃ weight : Weight α,
      weight.maxPoints = score.maxPoints ∧
        score = .prorate weight (buildOutcomes (some report)) := by
  obtain ⟨warnings, plan, trials, among⟩ := isScore
  obtain ⟨weight, -, rfl⟩ := List.mem_map.mp among
  rw [category_prorate] at warnings
  refine ⟨weight, (maxPoints_prorate weight _).symm, ?_⟩
  rw [warnings]
  rfl

/--
What a report is worth, whatever points are counted in, and what its warnings
cost.
-/
structure ScoresWarnings (report : BuildReport) : Prop where
  /-- The grade holds such a score for every weight of the warnings. -/
  present :
    ∀ {α : Type} [Points α] (plan : Plan α) (trials : List Trial),
      ∀ weight ∈ plan.weights, weight.category = .compilerWarnings →
        ∃ score ∈
            (ResolverGrader.score plan trials (some report)).categories,
          IsWarningsScore report score ∧
            score.maxPoints = weight.maxPoints
  full :
    ∀ {α : Type} [Points α] (score : CategoryScore α),
      IsWarningsScore report score → report.isClean = true →
        score.graded = true ∧ score.awarded = score.maxPoints
  unearned :
    ∀ {α : Type} [Points α] (score : CategoryScore α),
      IsWarningsScore report score → report.isClean = false →
        score.graded = true ∧
          ∀ verdict ∈ score.verdicts, verdict.points = Points.ofNat 0
  nothing :
    ∀ score : CategoryScore Rat,
      IsWarningsScore report score → report.isClean = false →
        0 ≤ score.maxPoints → score.awarded = 0
  /-- The same of the rounded points that a submission is graded with. -/
  nothing_rounded :
    ∀ score : CategoryScore Float,
      IsWarningsScore report score → report.isClean = false →
        0.0 < score.maxPoints → score.awarded = 0.0

section

variable {α : Type} [Points α] {report : BuildReport}
  {score : CategoryScore α}

theorem exists_isWarningsScore
    (plan : Plan α) (trials : List Trial) {weight : Weight α}
    (planned : weight ∈ plan.weights)
    (warnings : weight.category = .compilerWarnings) :
    ∃ score ∈
        (ResolverGrader.score plan trials (some report)).categories,
      IsWarningsScore report score ∧
        score.maxPoints = weight.maxPoints := by
  have among :
      .prorate weight (outcomesFor weight.category trials (some report)) ∈
        (ResolverGrader.score plan trials (some report)).categories :=
    List.mem_map_of_mem planned
  refine ⟨_, among, ⟨?_, plan, trials, among⟩, maxPoints_prorate weight _⟩
  rw [category_prorate, warnings]

theorem full_of_isClean
    (isScore : IsWarningsScore report score)
    (clean : report.isClean = true) :
    score.graded = true ∧ score.awarded = score.maxPoints := by
  obtain ⟨weight, worth, rfl⟩ := isScore.eq_prorate
  have passed : buildOutcomes (some report) = [(none, .pass)] :=
    if_pos clean
  rw [passed] at worth ⊢
  refine ⟨(graded_prorate weight _).mpr (List.cons_ne_nil _ _), ?_⟩
  rw [awarded_prorate_of_all_pass weight (List.cons_ne_nil _ _)
    (List.forall_mem_singleton.mpr rfl), worth]

theorem IsWarningsScore.eq_prorate_fail
    (isScore : IsWarningsScore report score)
    (warned : report.isClean = false) :
    ∃ (weight : Weight α) (reason : String),
      weight.maxPoints = score.maxPoints ∧
        score = .prorate weight [(none, .fail reason)] := by
  obtain ⟨weight, worth, rfl⟩ := isScore.eq_prorate
  have failed :
      ∃ reason, buildOutcomes (some report) = [(none, .fail reason)] :=
    ⟨_, if_neg (Bool.eq_false_iff.mp warned)⟩
  obtain ⟨reason, failed⟩ := failed
  exact ⟨weight, reason, worth, by rw [failed]⟩

theorem unearned_of_not_isClean
    (isScore : IsWarningsScore report score)
    (warned : report.isClean = false) :
    score.graded = true ∧
      ∀ verdict ∈ score.verdicts, verdict.points = Points.ofNat 0 := by
  obtain ⟨weight, reason, _, rfl⟩ := isScore.eq_prorate_fail warned
  refine ⟨(graded_prorate weight _).mpr (List.cons_ne_nil _ _), ?_⟩
  rw [verdicts_prorate, List.map_singleton, List.forall_mem_singleton]
  rfl

theorem awarded_of_not_isClean
    (isScore : IsWarningsScore report score)
    (warned : report.isClean = false) :
    score.awarded =
      Points.least (Points.sum [Points.ofNat 0]) score.maxPoints := by
  obtain ⟨weight, reason, worth, rfl⟩ := isScore.eq_prorate_fail warned
  rw [← worth]
  rfl

end

theorem least_float {maxPoints : Float} (positive : 0.0 < maxPoints) :
    Points.least 0.0 maxPoints = 0.0 := by
  have number : (0.0 : Float).isNaN = false := by
    decide +kernel
  show (if (0.0 : Float).isNaN then maxPoints
    else if maxPoints.isNaN then 0.0
    else if 0.0 < maxPoints then 0.0
    else maxPoints) = 0.0
  rw [number, if_neg Bool.false_ne_true, if_pos positive, ite_self]

theorem scoresWarnings (report : BuildReport) : ScoresWarnings report where
  present plan trials _ := exists_isWarningsScore plan trials
  full _ := full_of_isClean
  unearned _ := unearned_of_not_isClean
  nothing score isScore warned nonneg := by
    rw [awarded_of_not_isClean isScore warned]
    simp [nonneg]
  nothing_rounded score isScore warned positive := by
    have nothing : Points.sum [Points.ofNat 0] = (0.0 : Float) := by
      decide +kernel
    rw [awarded_of_not_isClean isScore warned, nothing,
      least_float positive]

end ResolverGrader
