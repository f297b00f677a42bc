import ResolverGrader.Ledger
import ResolverGrader.Proofs.Check.Outcome

/-!
# Where verdicts come from

The verdicts of a category are collected from the trials by passing over every
trial that its check does not apply to.  The build is judged once, and only if
there was one.

`Collected` and `Judged` give these two rules without the functions that carry
them out, and `outcomesFor_sourced` says that scoring follows them.
`entries_prorate` says that sharing points out neither loses nor reorders an
outcome.
-/

namespace ResolverGrader

/-- An outcome under the query name it is reported for. -/
abbrev Entry := Option String × Outcome

/-- The query name and the outcome of a verdict. -/
def Verdict.entry {α : Type} (verdict : Verdict α) : Entry :=
  (verdict.queryName, verdict.outcome)

/-- The number of verdicts that passed. -/
def CategoryScore.passCount {α : Type} (score : CategoryScore α) : Nat :=
  score.verdicts.countP (·.outcome.isPass)

/--
The entries that trials contribute to a category, in the order of the trials.
-/
inductive Collected (category : Category) :
    List Trial → List Entry → Prop where
  | nil : Collected category [] []
  | skip
      {trial : Trial} {trials : List Trial} {entries : List Entry}
      (elsewhere : ¬ Applies category trial)
      (rest : Collected category trials entries) :
      Collected category (trial :: trials) entries
  | take
      {trial : Trial} {trials : List Trial} {entries : List Entry}
      {outcome : Outcome}
      (checked : check category trial = some outcome)
      (applies : outcome.applies = true)
      (rest : Collected category trials entries) :
      Collected category (trial :: trials)
        ((some trial.queryName, outcome) :: entries)

/--
The entries that a build contributes: it passes exactly if the compiler was
silent.
-/
inductive Judged : Option BuildReport → List Entry → Prop where
  | skipped : Judged none []
  | silent
      {report : BuildReport} (noWarnings : report.warnings = "") :
      Judged (some report) [(none, .pass)]
  | warned
      {report : BuildReport} (warnings : report.warnings ≠ "")
      (reason : String) :
      Judged (some report) [(none, .fail reason)]

/-- The entries of a category come from the build or from the trials. -/
def Sourced
    (category : Category) (trials : List Trial)
    (build : Option BuildReport) (entries : List Entry) : Prop :=
  match category with
  | .compilerWarnings => Judged build entries
  | other => Collected other trials entries

/-! ## Collecting outcomes -/

theorem applicableOutcomes_cons_of_not_applies
    {category : Category} {trial : Trial} (trials : List Trial)
    (elsewhere : ¬ Applies category trial) :
    applicableOutcomes category (trial :: trials) =
      applicableOutcomes category trials := by
  have none_left :
      (check category trial).filter (·.applies) = none := by
    rw [Option.filter_eq_none_iff]
    intro outcome checked applies
    exact elsewhere ⟨outcome, checked, applies⟩
  exact List.filterMap_cons_none (by rw [none_left, Option.map_none])

theorem applicableOutcomes_cons_of_applies
    {category : Category} {trial : Trial} (trials : List Trial)
    {outcome : Outcome}
    (checked : check category trial = some outcome)
    (applies : outcome.applies = true) :
    applicableOutcomes category (trial :: trials) =
      (some trial.queryName, outcome) ::
        applicableOutcomes category trials := by
  have taken :
      (check category trial).filter (·.applies) = some outcome := by
    rw [checked, Option.filter_some, if_pos applies]
  exact List.filterMap_cons_some (by rw [taken, Option.map_some])

theorem applicableOutcomes_collected
    (category : Category) (trials : List Trial) :
    Collected category trials (applicableOutcomes category trials) := by
  induction trials with
  | nil => exact .nil
  | cons trial trials ih =>
      by_cases applies : Applies category trial
      · obtain ⟨outcome, checked, counts⟩ := applies
        rw [applicableOutcomes_cons_of_applies trials checked counts]
        exact .take checked counts ih
      · rw [applicableOutcomes_cons_of_not_applies trials applies]
        exact .skip applies ih

theorem buildOutcomes_judged (build : Option BuildReport) :
    Judged build (buildOutcomes build) := by
  cases build with
  | none => exact .skipped
  | some report =>
      by_cases silent : report.warnings = ""
      · simp only [buildOutcomes, BuildReport.isClean, silent]
        exact .silent silent
      · have notClean : report.isClean = false := by
          simpa [BuildReport.isClean] using silent
        simp only [buildOutcomes, notClean]
        exact .warned silent _

/-- Scoring draws the outcomes of every category from the right source. -/
theorem outcomesFor_sourced
    (category : Category) (trials : List Trial)
    (build : Option BuildReport) :
    Sourced category trials build (outcomesFor category trials build) := by
  cases category with
  | compilerWarnings => exact buildOutcomes_judged build
  | memoryLeaks | wellFormedQuery | sendAndReceive | findsAnswer
    | handlesCname | handlesNxdomain | handlesRoot =>
      exact applicableOutcomes_collected _ trials

theorem Collected.decided
    {category : Category} {trials : List Trial} {entries : List Entry}
    (collected : Collected category trials entries) :
    ∀ entry ∈ entries, entry.2.Decided := by
  induction collected with
  | nil => simp
  | skip _ _ ih => exact ih
  | take checked applies _ ih =>
      rw [List.forall_mem_cons]
      exact ⟨check_decided checked applies, ih⟩

theorem Judged.decided
    {build : Option BuildReport} {entries : List Entry}
    (judged : Judged build entries) :
    ∀ entry ∈ entries, entry.2.Decided := by
  cases judged with
  | skipped => simp
  | silent _ => simpa using Outcome.decided_pass
  | warned _ reason => simpa using Outcome.decided_fail reason

/-- Whatever counts for a category has been decided. -/
theorem Sourced.decided
    {category : Category} {trials : List Trial}
    {build : Option BuildReport} {entries : List Entry}
    (sourced : Sourced category trials build entries) :
    ∀ entry ∈ entries, entry.2.Decided := by
  cases category with
  | compilerWarnings => exact Judged.decided sourced
  | memoryLeaks | wellFormedQuery | sendAndReceive | findsAnswer
    | handlesCname | handlesNxdomain | handlesRoot =>
      exact Collected.decided sourced

theorem Collected.exists_trial
    {category : Category} {trials : List Trial} {entries : List Entry}
    (collected : Collected category trials entries) :
    ∀ entry ∈ entries, ∃ trial ∈ trials,
      entry.1 = some trial.queryName ∧
        check category trial = some entry.2 := by
  induction collected with
  | nil => exact List.forall_mem_nil _
  | skip _ _ ih =>
      intro entry member
      obtain ⟨trial, among, source⟩ := ih entry member
      exact ⟨trial, List.mem_cons_of_mem _ among, source⟩
  | take checked _ _ ih =>
      rw [List.forall_mem_cons]
      refine ⟨⟨_, List.mem_cons_self, rfl, checked⟩, ?_⟩
      intro entry member
      obtain ⟨trial, among, source⟩ := ih entry member
      exact ⟨trial, List.mem_cons_of_mem _ among, source⟩

/--
With a clean build, what counts for a category says what its check says of some
trial, or that the build passed.
-/
theorem Sourced.exists_trial_or_pass
    {category : Category} {trials : List Trial}
    {build : Option BuildReport} {entries : List Entry}
    (sourced : Sourced category trials build entries)
    (clean : ∀ report ∈ build, report.isClean = true) :
    ∀ entry ∈ entries,
      (∃ trial ∈ trials, entry.1 = some trial.queryName ∧
        check category trial = some entry.2) ∨
      entry = (none, .pass) := by
  cases category with
  | compilerWarnings =>
      intro entry member
      cases sourced with
      | skipped => simp at member
      | silent _ => exact Or.inr (List.mem_singleton.mp member)
      | warned warnings _ =>
          have noWarnings := clean _ rfl
          exact absurd (String.isEmpty_iff.mp noWarnings) warnings
  | memoryLeaks | wellFormedQuery | sendAndReceive | findsAnswer
    | handlesCname | handlesNxdomain | handlesRoot =>
      intro entry member
      exact Or.inl (Collected.exists_trial sourced entry member)

/-! ## Sharing points out -/

theorem verdicts_eq_nil_of_not_graded
    {α : Type} {score : CategoryScore α}
    (graded_iff : score.graded = true ↔ score.verdicts ≠ [])
    (ungraded : score.graded = false) : score.verdicts = [] := by
  rcases Classical.em (score.verdicts = []) with none | present
  · exact none
  · exact absurd (ungraded.symm.trans (graded_iff.mpr present))
      Bool.false_ne_true

section

variable {α : Type} [Points α]

@[simp]
theorem outcome_ofOutcome
    (share : α) (queryName : Option String) (outcome : Outcome) :
    (Verdict.ofOutcome share queryName outcome).outcome = outcome := rfl

@[simp]
theorem category_prorate (weight : Weight α) (entries : List Entry) :
    (CategoryScore.prorate weight entries).category = weight.category := by
  unfold CategoryScore.prorate
  split <;> rfl

@[simp]
theorem maxPoints_prorate (weight : Weight α) (entries : List Entry) :
    (CategoryScore.prorate weight entries).maxPoints = weight.maxPoints := by
  unfold CategoryScore.prorate
  split <;> rfl

/-- Every outcome gets an equal share, and the order stays. -/
theorem verdicts_prorate (weight : Weight α) (entries : List Entry) :
    (CategoryScore.prorate weight entries).verdicts =
      entries.map fun entry =>
        Verdict.ofOutcome (Points.share weight.maxPoints entries.length)
          entry.1 entry.2 := by
  unfold CategoryScore.prorate
  split
  · rename_i empty
    rw [empty, List.map_nil]
  · rfl

@[simp]
theorem verdicts_prorate_eq_nil_iff
    (weight : Weight α) (entries : List Entry) :
    (CategoryScore.prorate weight entries).verdicts = [] ↔
      entries = [] := by
  rw [verdicts_prorate, List.map_eq_nil_iff]

theorem mem_verdicts_prorate
    {weight : Weight α} {entries : List Entry} {verdict : Verdict α} :
    verdict ∈ (CategoryScore.prorate weight entries).verdicts ↔
      ∃ entry ∈ entries,
        Verdict.ofOutcome (Points.share weight.maxPoints entries.length)
          entry.1 entry.2 = verdict := by
  rw [verdicts_prorate, List.mem_map]

theorem graded_prorate (weight : Weight α) (entries : List Entry) :
    (CategoryScore.prorate weight entries).graded = true ↔
      entries ≠ [] := by
  unfold CategoryScore.prorate
  split
  · rename_i empty
    simp [empty]
  · rename_i present
    simp [present]

/-- A category of a grade was graded exactly if it has verdicts. -/
theorem graded_iff_of_mem_score
    {plan : Plan α} {trials : List Trial} {build : Option BuildReport}
    {score : CategoryScore α}
    (among : score ∈ (ResolverGrader.score plan trials build).categories) :
    score.graded = true ↔ score.verdicts ≠ [] := by
  obtain ⟨weight, _, rfl⟩ := List.mem_map.mp among
  exact (graded_prorate weight _).trans
    (not_congr (verdicts_prorate_eq_nil_iff weight _)).symm

@[simp]
theorem entries_prorate (weight : Weight α) (entries : List Entry) :
    (CategoryScore.prorate weight entries).verdicts.map Verdict.entry =
      entries := by
  rw [verdicts_prorate, List.map_map]
  exact List.map_id' entries

@[simp]
theorem length_verdicts_prorate (weight : Weight α) (entries : List Entry) :
    (CategoryScore.prorate weight entries).verdicts.length =
      entries.length := by
  rw [verdicts_prorate, List.length_map]

theorem passCount_prorate (weight : Weight α) (entries : List Entry) :
    (CategoryScore.prorate weight entries).passCount =
      entries.countP (·.2.isPass) := by
  unfold CategoryScore.passCount
  rw [verdicts_prorate, List.countP_map]
  rfl

/--
Where everything passes the maximum itself is awarded, whatever points are
counted in.
-/
theorem awarded_prorate_of_all_pass
    (weight : Weight α) {entries : List Entry} (present : entries ≠ [])
    (allPass : ∀ entry ∈ entries, entry.2.isPass = true) :
    (CategoryScore.prorate weight entries).awarded = weight.maxPoints := by
  unfold CategoryScore.prorate
  rw [if_neg present]
  show awardedPoints weight.maxPoints _ = weight.maxPoints
  refine if_pos ?_
  rw [List.all_map, List.all_eq_true]
  exact allPass

theorem awarded_prorate_nil (weight : Weight α) :
    (CategoryScore.prorate weight []).awarded = Points.ofNat 0 := rfl

end

end ResolverGrader
