import ResolverGrader.Proofs.Ledger.Proration

/-!
# What a submission cannot change

Two submissions that are given the same tasks get ledgers of the same frame:
the same categories with the same maxima, graded or not alike, with the same
verdicts to pass for the same points.  Only which of them pass is in a
submission's hands, and over the rationals it never loses points by passing
more.

The argument follows the grade upwards.  Trials of one task are `Alike`
whatever was run; alike trials contribute outcomes under the same names; and
outcomes under the same names are prorated in the same frame.
-/

namespace ResolverGrader

/-- What is asked for one query name, and what is expected. -/
structure Task where
  queryName : String
  expectedQuery : Octets
  expectedAnswers : List String

/--
What a submission does about one task: its traced run and its checked run.
-/
structure Conduct where
  traced : Run
  checked : Run

/-- The trial of a task, given what the submission does about it. -/
def Task.trial (task : Task) (conduct : Conduct) : Trial :=
  .ofRuns task.queryName conduct.traced conduct.checked
    task.expectedQuery task.expectedAnswers

/-- The trials of tasks, given what the submission does at each position. -/
def trialsOf (tasks : List Task) (conduct : Nat → Conduct) : List Trial :=
  tasks.mapIdx fun position task => task.trial (conduct position)

/--
Two scores of one category that leave the same points to earn in the same
places.
-/
structure CategoryScore.SameFrame
    {α : Type} (first second : CategoryScore α) : Prop where
  category_eq : first.category = second.category
  maxPoints_eq : first.maxPoints = second.maxPoints
  graded_eq : first.graded = second.graded
  queryNames_eq :
    first.verdicts.map Verdict.queryName =
      second.verdicts.map Verdict.queryName
  pointsPossible_eq :
    first.verdicts.map Verdict.pointsPossible =
      second.verdicts.map Verdict.pointsPossible

/-- Two ledgers that leave the same points to earn in the same places. -/
structure Ledger.SameFrame
    {α : Type} (first second : Ledger α) : Prop where
  categories :
    List.Forall₂ CategoryScore.SameFrame first.categories
      second.categories
  maxScore_eq : first.maxScore = second.maxScore

/--
Whatever passes in the first ledger passes in the same place of the second.
-/
def Ledger.KeepsPasses {α : Type} (first second : Ledger α) : Prop :=
  List.Forall₂
    (fun before after =>
      List.Forall₂
        (fun earlier later =>
          earlier.outcome.isPass = true → later.outcome.isPass = true)
        before.verdicts after.verdicts)
    first.categories second.categories

/-! ## The frame -/

/-- Two trials of one task, as far as the choice of checks is concerned. -/
def Trial.Alike (first second : Trial) : Prop :=
  first.queryName = second.queryName ∧
    first.expectedAnswers = second.expectedAnswers

theorem trialsOf_alike
    (tasks : List Task) (first second : Nat → Conduct) :
    List.Forall₂ Trial.Alike (trialsOf tasks first)
      (trialsOf tasks second) := by
  unfold trialsOf
  rw [List.mapIdx_eq_zipIdx_map, List.mapIdx_eq_zipIdx_map,
    List.forall₂_map_left_iff, List.forall₂_map_right_iff,
    List.forall₂_same]
  intro position _
  exact ⟨rfl, rfl⟩

theorem applies_iff_of_alike
    {first second : Trial} (alike : first.Alike second)
    (category : Category) :
    Applies category first ↔ Applies category second := by
  rw [applies_iff, applies_iff, alike.1, alike.2]

theorem applicableOutcomes_of_alike
    (category : Category) {first second : List Trial}
    (alike : List.Forall₂ Trial.Alike first second) :
    (applicableOutcomes category first).map Prod.fst =
      (applicableOutcomes category second).map Prod.fst := by
  induction alike with
  | nil => rfl
  | @cons left right lefts rights pair _ ih =>
      by_cases applies : Applies category left
      · obtain ⟨leftOutcome, leftChecked, leftCounts⟩ := applies
        obtain ⟨rightOutcome, rightChecked, rightCounts⟩ :=
          (applies_iff_of_alike pair category).mp
            ⟨leftOutcome, leftChecked, leftCounts⟩
        rw [applicableOutcomes_cons_of_applies lefts leftChecked leftCounts,
          applicableOutcomes_cons_of_applies rights rightChecked rightCounts,
          List.map_cons, List.map_cons, ih, pair.1]
      · have elsewhere : ¬ Applies category right :=
          fun there =>
            applies ((applies_iff_of_alike pair category).mpr there)
        rw [applicableOutcomes_cons_of_not_applies lefts applies,
          applicableOutcomes_cons_of_not_applies rights elsewhere, ih]

theorem buildOutcomes_of_isSome_eq
    {first second : Option BuildReport}
    (built : first.isSome = second.isSome) :
    (buildOutcomes first).map Prod.fst =
      (buildOutcomes second).map Prod.fst := by
  have named (build : Option BuildReport) :
      (buildOutcomes build).map Prod.fst =
        if build.isSome then [none] else [] := by
    have judged := buildOutcomes_judged build
    generalize buildOutcomes build = entries at judged
    cases judged <;> rfl
  rw [named, named, built]

/-- The names that count for a category do not depend on the submission. -/
theorem outcomesFor_of_alike
    (category : Category) {first second : List Trial}
    (alike : List.Forall₂ Trial.Alike first second)
    {firstBuild secondBuild : Option BuildReport}
    (built : firstBuild.isSome = secondBuild.isSome) :
    (outcomesFor category first firstBuild).map Prod.fst =
      (outcomesFor category second secondBuild).map Prod.fst := by
  cases category with
  | compilerWarnings => exact buildOutcomes_of_isSome_eq built
  | memoryLeaks | wellFormedQuery | sendAndReceive | findsAnswer
    | handlesCname | handlesNxdomain | handlesRoot =>
      exact applicableOutcomes_of_alike _ alike

theorem length_eq_of_map_fst_eq
    {first second : List Entry}
    (named : first.map Prod.fst = second.map Prod.fst) :
    first.length = second.length := by
  simpa using congrArg List.length named

theorem sameFrame_prorate
    {α : Type} [Points α] (weight : Weight α)
    {first second : List Entry}
    (named : first.map Prod.fst = second.map Prod.fst) :
    (CategoryScore.prorate weight first).SameFrame
      (CategoryScore.prorate weight second) where
  category_eq := by
    rw [category_prorate, category_prorate]
  maxPoints_eq := by
    rw [maxPoints_prorate, maxPoints_prorate]
  graded_eq := by
    rw [Bool.eq_iff_iff, graded_prorate, graded_prorate,
      ← List.length_pos_iff, ← List.length_pos_iff,
      length_eq_of_map_fst_eq named]
  queryNames_eq := by
    rw [verdicts_prorate, verdicts_prorate, List.map_map, List.map_map]
    exact named
  pointsPossible_eq := by
    have sameLength := length_eq_of_map_fst_eq named
    have shares (entries : List Entry) :
        (CategoryScore.prorate weight entries).verdicts.map
            Verdict.pointsPossible =
          List.replicate entries.length
            (Points.share weight.maxPoints entries.length) := by
      rw [verdicts_prorate, List.map_map]
      exact List.map_const'
    rw [shares, shares, sameLength]

theorem sameFrame_score
    {α : Type} [Points α] (plan : Plan α) {first second : List Trial}
    (alike : List.Forall₂ Trial.Alike first second)
    {firstBuild secondBuild : Option BuildReport}
    (built : firstBuild.isSome = secondBuild.isSome) :
    (score plan first firstBuild).SameFrame
      (score plan second secondBuild) where
  maxScore_eq := rfl
  categories := by
    show List.Forall₂ _ (plan.weights.map _) (plan.weights.map _)
    rw [List.forall₂_map_left_iff, List.forall₂_map_right_iff,
      List.forall₂_same]
    intro weight _
    exact sameFrame_prorate weight
      (outcomesFor_of_alike weight.category alike built)

/-! ## Monotonicity -/

theorem countP_le_of_forall₂
    {α : Type} {passes : α → Bool} {first second : List α}
    (kept :
      List.Forall₂
        (fun earlier later => passes earlier = true → passes later = true)
        first second) :
    first.countP passes ≤ second.countP passes := by
  induction kept with
  | nil => exact le_refl _
  | @cons earlier later _ _ keeps _ ih =>
      rw [List.countP_cons, List.countP_cons]
      refine Nat.add_le_add ih ?_
      by_cases passed : passes earlier = true
      · rw [if_pos passed, if_pos (keeps passed)]
      · rw [if_neg passed]
        exact Nat.zero_le _

/-- More passes among as many outcomes are never worth less. -/
theorem awarded_prorate_mono
    {weight : Weight Rat} (nonneg : 0 ≤ weight.maxPoints)
    {first second : List Entry} (sameLength : first.length = second.length)
    (morePasses :
      first.countP (·.2.isPass) ≤ second.countP (·.2.isPass)) :
    (CategoryScore.prorate weight first).awarded ≤
      (CategoryScore.prorate weight second).awarded := by
  by_cases empty : first = []
  · rw [empty, awarded_prorate_nil]
    exact awarded_prorate_nonneg nonneg second
  · have present : second ≠ [] := by
      rw [← List.length_pos_iff, ← sameLength]
      exact List.length_pos_iff.mpr empty
    have countLe :
        (first.countP (·.2.isPass) : Rat) ≤ second.countP (·.2.isPass) := by
      exact_mod_cast morePasses
    rw [awarded_prorate nonneg empty, awarded_prorate nonneg present,
      sameLength]
    exact div_le_div_of_nonneg_right
      (mul_le_mul_of_nonneg_left countLe nonneg) (Nat.cast_nonneg _)

theorem total_le_of_awarded_le
    {first second : Ledger Rat}
    (awarded :
      List.Forall₂ (fun before after => before.awarded ≤ after.awarded)
        first.categories second.categories) :
    first.total ≤ second.total := by
  unfold Ledger.total
  rw [Points.sum_rat, Points.sum_rat]
  apply List.Forall₂.sum_le_sum
  rwa [List.forall₂_map_left_iff, List.forall₂_map_right_iff]

theorem awarded_score_mono
    {plan : Plan Rat}
    (nonneg : ∀ weight ∈ plan.weights, 0 ≤ weight.maxPoints)
    {first second : List Trial}
    (alike : List.Forall₂ Trial.Alike first second)
    {firstBuild secondBuild : Option BuildReport}
    (built : firstBuild.isSome = secondBuild.isSome)
    (kept :
      (score plan first firstBuild).KeepsPasses
        (score plan second secondBuild)) :
    List.Forall₂ (fun before after => before.awarded ≤ after.awarded)
      (score plan first firstBuild).categories
      (score plan second secondBuild).categories := by
  have kept : List.Forall₂ _ (plan.weights.map _) (plan.weights.map _) :=
    kept
  show List.Forall₂ _ (plan.weights.map _) (plan.weights.map _)
  rw [List.forall₂_map_left_iff, List.forall₂_map_right_iff,
    List.forall₂_same] at kept ⊢
  intro weight member
  have sameNames := outcomesFor_of_alike weight.category alike built
  have morePasses :
      (CategoryScore.prorate weight
          (outcomesFor weight.category first firstBuild)).passCount ≤
        (CategoryScore.prorate weight
          (outcomesFor weight.category second secondBuild)).passCount :=
    countP_le_of_forall₂ (kept weight member)
  rw [passCount_prorate, passCount_prorate] at morePasses
  exact awarded_prorate_mono (nonneg weight member)
    (length_eq_of_map_fst_eq sameNames) morePasses

/--
Two submissions that are given the same tasks, and are both built or both not,
get ledgers of the same frame, whatever points are counted in.  With rational
points and no negative weight, a submission that keeps every pass of another is
awarded no less in any category or in total.
-/
theorem frame_fixed_and_awards_monotone
    (tasks : List Task) (first second : Nat → Conduct)
    (firstBuild secondBuild : Option BuildReport)
    (built : firstBuild.isSome = secondBuild.isSome) :
    (∀ (α : Type) [Points α] (plan : Plan α),
      (score plan (trialsOf tasks first) firstBuild).SameFrame
        (score plan (trialsOf tasks second) secondBuild)) ∧
      ∀ plan : Plan Rat,
        (∀ weight ∈ plan.weights, 0 ≤ weight.maxPoints) →
        (score plan (trialsOf tasks first) firstBuild).KeepsPasses
          (score plan (trialsOf tasks second) secondBuild) →
        List.Forall₂ (fun before after => before.awarded ≤ after.awarded)
            (score plan (trialsOf tasks first) firstBuild).categories
            (score plan (trialsOf tasks second) secondBuild).categories ∧
          (score plan (trialsOf tasks first) firstBuild).total ≤
            (score plan (trialsOf tasks second) secondBuild).total := by
  have alike := trialsOf_alike tasks first second
  constructor
  · intro α _ plan
    exact sameFrame_score plan alike built
  · intro plan nonneg kept
    have awarded := awarded_score_mono nonneg alike built kept
    exact ⟨awarded, total_le_of_awarded_le awarded⟩

/--
A submission that stays silent, and one that prints the alias it is asked for.
-/
theorem awards_monotone_of_silence :
    let tasks : List Task := [⟨".", [], ["b."]⟩, ⟨"a.", [], ["192.0.2.1"]⟩]
    let silent : Nat → Conduct := fun _ =>
      ⟨⟨[], [], none, none, none, .timedOut⟩,
        ⟨[], [], none, none, none, .timedOut⟩⟩
    let speaking : Nat → Conduct := fun _ =>
      ⟨⟨[], [66, 10], none, none, none, .exited 0⟩,
        ⟨[], [], none, none, some (.exited 0), .exited 0⟩⟩
    let plan : Plan Rat :=
      ⟨[⟨.handlesCname, 10⟩, ⟨.findsAnswer, 25⟩, ⟨.memoryLeaks, 2⟩]⟩
    (∀ weight ∈ plan.weights, 0 ≤ weight.maxPoints) ∧
      (score plan (trialsOf tasks silent) none).KeepsPasses
        (score plan (trialsOf tasks speaking) none) ∧
      (score plan (trialsOf tasks silent) none).total ≤
        (score plan (trialsOf tasks speaking) none).total := by
  intro tasks silent speaking plan
  have nonneg : ∀ weight ∈ plan.weights, 0 ≤ weight.maxPoints := by
    decide +kernel
  have kept :
      (score plan (trialsOf tasks silent) none).KeepsPasses
        (score plan (trialsOf tasks speaking) none) := by
    unfold Ledger.KeepsPasses
    decide +kernel
  exact ⟨nonneg, kept,
    ((frame_fixed_and_awards_monotone tasks silent speaking none none
      rfl).2 plan nonneg kept).2⟩

end ResolverGrader
