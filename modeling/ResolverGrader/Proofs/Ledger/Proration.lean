import Mathlib.Algebra.Order.BigOperators.Group.List
import Mathlib.Algebra.Order.Ring.Unbundled.Rat
import Mathlib.Tactic.FieldSimp
import Mathlib.Tactic.Linarith
import Mathlib.Tactic.Ring
import ResolverGrader.Plan
import ResolverGrader.Proofs.Ledger.Verdicts

/-!
# Exact proration

With rational points the grade has a closed form.  A category that is worth `m`
points and has `n` verdicts, `k` of which passed, is awarded `m * k / n`; a
category without verdicts is awarded nothing.  So no category is awarded less
than nothing or more than it is worth, all of it is awarded only where
everything passed, and the same holds of the total.

`score_exact` states this for every plan without negative weights, every list
of trials and every build, together with the source of each verdict.
-/

namespace ResolverGrader.Points

/-!
## Sums of rational points

Over the rationals the operations on points are the usual ones: adding points
up gives the sum of the list, and the smaller of two is their minimum.  The
sums that grading needs are those of equal shares, of which only some are
earned, and those of two lists that are compared entry by entry.

`sum_map_eq_iff` is the equality case of such a comparison: where no entry of
one list exceeds the other's, the sums agree only if all entries do.
-/

@[simp]
theorem ofNat_rat (number : Nat) :
    (Points.ofNat number : Rat) = number := rfl

@[simp]
theorem share_rat (points : Rat) (count : Nat) :
    Points.share points count = points / count := rfl

@[simp]
theorem sum_rat (points : List Rat) :
    Points.sum points = points.sum := by
  show points.foldl (· + ·) 0 = points.sum
  rw [List.sum_eq_foldl]

@[simp]
theorem least_rat (left right : Rat) :
    Points.least left right = min left right := by
  show (if left < right then left else right) = min left right
  split
  · rename_i less
    exact (min_eq_left less.le).symm
  · rename_i notLess
    exact (min_eq_right (not_lt.mp notLess)).symm

/--
Where some entries earn the same share and the others nothing, the sum counts
the shares.
-/
theorem sum_map_ite_share
    {α : Type} (earns : α → Bool) (share : Rat) (entries : List α) :
    (entries.map fun entry => if earns entry then share else 0).sum =
      entries.countP earns * share := by
  induction entries with
  | nil => simp
  | cons entry rest ih =>
      rw [List.map_cons, List.sum_cons, ih, List.countP_cons]
      cases earns entry with
      | false => simp
      | true =>
          rw [if_pos rfl, if_pos rfl, Nat.cast_add, Nat.cast_one]
          ring

/--
Two sums that are compared entry by entry agree only where all entries do.
-/
theorem sum_map_eq_iff
    {α : Type} {lower upper : α → Rat} {entries : List α}
    (bound : ∀ entry ∈ entries, lower entry ≤ upper entry) :
    (entries.map lower).sum = (entries.map upper).sum ↔
      ∀ entry ∈ entries, lower entry = upper entry := by
  induction entries with
  | nil => simp
  | cons entry rest ih =>
      have first := bound entry List.mem_cons_self
      have later : ∀ other ∈ rest, lower other ≤ upper other :=
        fun other member => bound other (List.mem_cons_of_mem entry member)
      have rest_le := List.sum_le_sum later
      rw [List.map_cons, List.map_cons, List.sum_cons, List.sum_cons,
        List.forall_mem_cons, ← ih later]
      constructor
      · intro equal
        constructor <;> linarith
      · rintro ⟨here, there⟩
        rw [here, there]

end ResolverGrader.Points

namespace ResolverGrader

/-! ## A score and its weight -/

/-- Everything that was asked has passed, and something was. -/
def CategoryScore.IsFull {α : Type} (score : CategoryScore α) : Prop :=
  score.graded = true ∧
    ∀ verdict ∈ score.verdicts, verdict.outcome.passed = some true

/-- What the score of a category says about its weight and its verdicts. -/
structure Proration
    (weight : Weight Rat) (score : CategoryScore Rat) : Prop where
  category_eq : score.category = weight.category
  maxPoints_eq : score.maxPoints = weight.maxPoints
  decided : ∀ verdict ∈ score.verdicts, verdict.outcome.Decided
  graded_iff : score.graded = true ↔ score.verdicts ≠ []
  pointsPossible_eq :
    ∀ verdict ∈ score.verdicts,
      verdict.pointsPossible = weight.maxPoints / score.verdicts.length
  points_of_passed :
    ∀ verdict ∈ score.verdicts, verdict.outcome.passed = some true →
      verdict.points = weight.maxPoints / score.verdicts.length
  points_of_failed :
    ∀ verdict ∈ score.verdicts, verdict.outcome.passed = some false →
      verdict.points = 0
  awarded_eq :
    score.verdicts ≠ [] →
      score.awarded =
        weight.maxPoints * score.passCount / score.verdicts.length
  awarded_of_nil : score.verdicts = [] → score.awarded = 0
  awarded_nonneg : 0 ≤ score.awarded
  awarded_le : score.awarded ≤ weight.maxPoints
  awarded_eq_max_iff :
    0 < weight.maxPoints →
      (score.awarded = weight.maxPoints ↔ score.IsFull)

/-! ## The award of one category -/

theorem cast_length_pos {entries : List Entry} (present : entries ≠ []) :
    (0 : Rat) < entries.length := by
  exact_mod_cast List.length_pos_iff.mpr present

theorem cast_countP_le_length (entries : List Entry) :
    (entries.countP (·.2.isPass) : Rat) ≤ entries.length := by
  exact_mod_cast List.countP_le_length

/-- An outcome earns its whole share or nothing. -/
@[simp]
theorem points_ofOutcome_rat
    (share : Rat) (queryName : Option String) (outcome : Outcome) :
    (Verdict.ofOutcome share queryName outcome).points =
      if outcome.isPass then share else 0 := by
  simp [Verdict.ofOutcome]

/-- A part of equal shares is worth its fraction of the whole. -/
theorem awarded_prorate
    {weight : Weight Rat} (nonneg : 0 ≤ weight.maxPoints)
    {entries : List Entry} (present : entries ≠ []) :
    (CategoryScore.prorate weight entries).awarded =
      weight.maxPoints * entries.countP (·.2.isPass) / entries.length := by
  have lengthPos := cast_length_pos present
  by_cases allPass : ∀ entry ∈ entries, entry.2.isPass = true
  · have counted : entries.countP (·.2.isPass) = entries.length :=
      List.countP_eq_length.mpr allPass
    rw [awarded_prorate_of_all_pass weight present allPass, counted]
    field_simp
  · have earned :
        (CategoryScore.prorate weight entries).awarded =
          min
            (entries.countP (·.2.isPass) *
              (weight.maxPoints / entries.length))
            weight.maxPoints := by
      unfold CategoryScore.prorate
      rw [if_neg present]
      show awardedPoints weight.maxPoints _ = _
      unfold awardedPoints
      rw [if_neg (by simpa [Verdict.ofOutcome] using allPass),
        Points.least_rat, Points.sum_rat, List.map_map]
      simp only [Function.comp_def, points_ofOutcome_rat,
        Points.share_rat]
      rw [Points.sum_map_ite_share (fun entry : Entry => entry.2.isPass)]
    -- The clamp has nothing to do: fewer shares than all are less than the
    -- whole.
    have shareLe :
        entries.countP (·.2.isPass) *
            (weight.maxPoints / entries.length) ≤
          weight.maxPoints := by
      rw [mul_div_assoc', div_le_iff₀ lengthPos, mul_comm]
      exact mul_le_mul_of_nonneg_left (cast_countP_le_length entries) nonneg
    rw [earned, min_eq_left shareLe]
    ring

theorem awarded_prorate_nonneg
    {weight : Weight Rat} (nonneg : 0 ≤ weight.maxPoints)
    (entries : List Entry) :
    0 ≤ (CategoryScore.prorate weight entries).awarded := by
  by_cases present : entries = []
  · rw [present, awarded_prorate_nil]
    exact le_refl 0
  · rw [awarded_prorate nonneg present]
    exact div_nonneg (mul_nonneg nonneg (Nat.cast_nonneg _))
      (Nat.cast_nonneg _)

theorem awarded_prorate_le
    {weight : Weight Rat} (nonneg : 0 ≤ weight.maxPoints)
    (entries : List Entry) :
    (CategoryScore.prorate weight entries).awarded ≤
      weight.maxPoints := by
  by_cases present : entries = []
  · rw [present, awarded_prorate_nil]
    exact nonneg
  · rw [awarded_prorate nonneg present,
      div_le_iff₀ (cast_length_pos present)]
    exact mul_le_mul_of_nonneg_left (cast_countP_le_length entries) nonneg

theorem isFull_prorate_iff
    (weight : Weight Rat) (entries : List Entry) :
    (CategoryScore.prorate weight entries).IsFull ↔
      entries ≠ [] ∧ entries.countP (·.2.isPass) = entries.length := by
  unfold CategoryScore.IsFull
  rw [graded_prorate, List.countP_eq_length]
  constructor
  · rintro ⟨present, allPassed⟩
    refine ⟨present, fun entry member => ?_⟩
    exact (Outcome.isPass_eq_true_iff entry.2).mpr
      (allPassed _ (mem_verdicts_prorate.mpr ⟨entry, member, rfl⟩))
  · rintro ⟨present, allPass⟩
    refine ⟨present, fun verdict member => ?_⟩
    obtain ⟨entry, entryMember, rfl⟩ := mem_verdicts_prorate.mp member
    exact (Outcome.isPass_eq_true_iff entry.2).mp
      (allPass entry entryMember)

/-- All of a category is awarded only where everything passed. -/
theorem awarded_prorate_eq_max_iff
    {weight : Weight Rat} (positive : 0 < weight.maxPoints)
    (entries : List Entry) :
    (CategoryScore.prorate weight entries).awarded = weight.maxPoints ↔
      (CategoryScore.prorate weight entries).IsFull := by
  rw [isFull_prorate_iff]
  by_cases present : entries = []
  · rw [present, awarded_prorate_nil]
    simp [positive.ne]
  · rw [awarded_prorate positive.le present,
      div_eq_iff (cast_length_pos present).ne',
      mul_right_inj' positive.ne', Nat.cast_inj]
    exact (and_iff_right present).symm

/-- The score of a category is its proration. -/
theorem prorate_proration
    {weight : Weight Rat} (nonneg : 0 ≤ weight.maxPoints)
    {entries : List Entry}
    (decided : ∀ entry ∈ entries, entry.2.Decided) :
    Proration weight (CategoryScore.prorate weight entries) where
  category_eq := category_prorate weight entries
  maxPoints_eq := maxPoints_prorate weight entries
  decided := by
    intro verdict member
    obtain ⟨entry, entryMember, rfl⟩ := mem_verdicts_prorate.mp member
    exact decided entry entryMember
  graded_iff := by
    rw [graded_prorate, ne_eq, ne_eq, verdicts_prorate_eq_nil_iff]
  pointsPossible_eq := by
    intro verdict member
    obtain ⟨entry, entryMember, rfl⟩ := mem_verdicts_prorate.mp member
    rw [length_verdicts_prorate]
    rfl
  points_of_passed := by
    intro verdict member passed
    obtain ⟨entry, entryMember, rfl⟩ := mem_verdicts_prorate.mp member
    have isPass : entry.2.isPass = true :=
      (Outcome.isPass_eq_true_iff entry.2).mpr passed
    rw [length_verdicts_prorate, points_ofOutcome_rat, if_pos isPass,
      Points.share_rat]
  points_of_failed := by
    intro verdict member failed
    obtain ⟨entry, entryMember, rfl⟩ := mem_verdicts_prorate.mp member
    have notPass : ¬ entry.2.isPass = true := by
      rw [Outcome.isPass_eq_true_iff,
        show entry.2.passed = some false from failed]
      simp
    rw [points_ofOutcome_rat, if_neg notPass]
  awarded_eq := by
    intro present
    rw [ne_eq, verdicts_prorate_eq_nil_iff] at present
    rw [awarded_prorate nonneg present, passCount_prorate,
      length_verdicts_prorate]
  awarded_of_nil := by
    intro empty
    rw [verdicts_prorate_eq_nil_iff] at empty
    rw [empty, awarded_prorate_nil, Points.ofNat_rat, Nat.cast_zero]
  awarded_nonneg := awarded_prorate_nonneg nonneg entries
  awarded_le := awarded_prorate_le nonneg entries
  awarded_eq_max_iff := fun positive =>
    awarded_prorate_eq_max_iff positive entries

/-! ## The whole grade -/

theorem proration_of_mem
    {plan : Plan Rat}
    (nonneg : ∀ weight ∈ plan.weights, 0 ≤ weight.maxPoints)
    (trials : List Trial) (build : Option BuildReport) :
    ∀ weight ∈ plan.weights,
      Proration weight
        (.prorate weight (outcomesFor weight.category trials build)) := by
  intro weight member
  exact prorate_proration (nonneg weight member)
    (outcomesFor_sourced weight.category trials build).decided

theorem total_score (plan : Plan Rat) (trials : List Trial)
    (build : Option BuildReport) :
    (score plan trials build).total =
      (plan.weights.map fun weight =>
        (CategoryScore.prorate weight
          (outcomesFor weight.category trials build)).awarded).sum := by
  unfold Ledger.total score
  rw [Points.sum_rat, List.map_map]
  rfl

theorem maxScore_score (plan : Plan Rat) (trials : List Trial)
    (build : Option BuildReport) :
    (score plan trials build).maxScore =
      (plan.weights.map Weight.maxPoints).sum :=
  Points.sum_rat _

theorem total_score_nonneg
    {plan : Plan Rat}
    (nonneg : ∀ weight ∈ plan.weights, 0 ≤ weight.maxPoints)
    (trials : List Trial) (build : Option BuildReport) :
    0 ≤ (score plan trials build).total := by
  rw [total_score]
  apply List.sum_nonneg
  intro awarded member
  obtain ⟨weight, weightMember, rfl⟩ := List.mem_map.mp member
  exact (proration_of_mem nonneg trials build weight
    weightMember).awarded_nonneg

theorem total_score_le_maxScore
    {plan : Plan Rat}
    (nonneg : ∀ weight ∈ plan.weights, 0 ≤ weight.maxPoints)
    (trials : List Trial) (build : Option BuildReport) :
    (score plan trials build).total ≤
      (score plan trials build).maxScore := by
  rw [total_score, maxScore_score]
  apply List.sum_le_sum
  intro weight member
  exact (proration_of_mem nonneg trials build weight member).awarded_le

/--
The total is the most possible only where every category that is worth
something is full.
-/
theorem total_score_eq_maxScore_iff
    {plan : Plan Rat}
    (nonneg : ∀ weight ∈ plan.weights, 0 ≤ weight.maxPoints)
    (trials : List Trial) (build : Option BuildReport) :
    (score plan trials build).total =
        (score plan trials build).maxScore ↔
      ∀ category ∈ (score plan trials build).categories,
        0 < category.maxPoints → category.IsFull := by
  have prorated := proration_of_mem nonneg trials build
  rw [total_score, maxScore_score,
    Points.sum_map_eq_iff fun weight member =>
      (prorated weight member).awarded_le]
  show _ ↔ ∀ category ∈ plan.weights.map _, _
  rw [List.forall_mem_map]
  refine forall₂_congr fun weight member => ?_
  have proration := prorated weight member
  rw [proration.maxPoints_eq]
  constructor
  · intro equal positive
    exact (proration.awarded_eq_max_iff positive).mp equal
  · intro full
    rcases (nonneg weight member).lt_or_eq with positive | zero
    · exact (proration.awarded_eq_max_iff positive).mpr (full positive)
    -- What is worth nothing is awarded in full whatever happens.
    · rw [← zero]
      exact le_antisymm (zero ▸ proration.awarded_le)
        proration.awarded_nonneg

/--
Where a category is full its maximum itself is awarded, whatever points are
counted in.
-/
theorem awarded_of_isFull
    {α : Type} [Points α] (plan : Plan α) (trials : List Trial)
    (build : Option BuildReport) :
    ∀ category ∈ (score plan trials build).categories,
      category.IsFull → category.awarded = category.maxPoints := by
  intro category member full
  obtain ⟨weight, -, rfl⟩ := List.mem_map.mp member
  have present := (graded_prorate weight _).mp full.1
  rw [maxPoints_prorate]
  refine awarded_prorate_of_all_pass weight present fun entry entryMember => ?_
  exact (Outcome.isPass_eq_true_iff entry.2).mpr
    (full.2 _ (mem_verdicts_prorate.mpr ⟨entry, entryMember, rfl⟩))

/--
The grade is exact: each weight of a plan has a score, in the order of the
plan, that draws its verdicts from the right source and prorates the weight
over them; the total lies between nothing and the maximum, and reaches it only
where every category that is worth something is full.  A full category is
awarded its maximum without any arithmetic, so that also holds of rounded
points.
-/
theorem score_exact
    (plan : Plan Rat) (trials : List Trial) (build : Option BuildReport)
    (nonneg : ∀ weight ∈ plan.weights, 0 ≤ weight.maxPoints) :
    List.Forall₂
        (fun weight category =>
          Sourced weight.category trials build
              (category.verdicts.map Verdict.entry) ∧
            Proration weight category)
        plan.weights (score plan trials build).categories ∧
      (score plan trials build).maxScore =
        (plan.weights.map Weight.maxPoints).sum ∧
      0 ≤ (score plan trials build).total ∧
      (score plan trials build).total ≤
        (score plan trials build).maxScore ∧
      ((score plan trials build).total =
          (score plan trials build).maxScore ↔
        ∀ category ∈ (score plan trials build).categories,
          0 < category.maxPoints → category.IsFull) ∧
      ∀ (α : Type) [Points α] (counted : Plan α),
        ∀ category ∈ (score counted trials build).categories,
          category.IsFull → category.awarded = category.maxPoints := by
  refine ⟨?_, maxScore_score plan trials build,
    total_score_nonneg nonneg trials build,
    total_score_le_maxScore nonneg trials build,
    total_score_eq_maxScore_iff nonneg trials build,
    fun α _ counted => awarded_of_isFull counted trials build⟩
  show List.Forall₂ _ plan.weights (plan.weights.map _)
  rw [List.forall₂_map_right_iff, List.forall₂_same]
  intro weight member
  constructor
  · rw [entries_prorate]
    exact outcomesFor_sourced weight.category trials build
  · exact proration_of_mem nonneg trials build weight member

/-- One trial of two finds the alias, and the compiler has complained. -/
theorem score_exact_standard :
    (∀ weight ∈ (Plan.standard : Plan Rat).weights,
        0 ≤ weight.maxPoints) ∧
      0 ≤ (score (.standard : Plan Rat)
          [⟨"a.", ["b."], ["b."], [], [], [], [], none, .exited 0⟩,
            ⟨"c.", ["b."], ["d."], [], [], [], [], none, .exited 0⟩]
          (some ⟨"unused variable"⟩)).total ∧
      (score (.standard : Plan Rat)
          [⟨"a.", ["b."], ["b."], [], [], [], [], none, .exited 0⟩,
            ⟨"c.", ["b."], ["d."], [], [], [], [], none, .exited 0⟩]
          (some ⟨"unused variable"⟩)).total ≤ 100 := by
  have nonneg :
      ∀ weight ∈ (Plan.standard : Plan Rat).weights,
        0 ≤ weight.maxPoints := by
    decide +kernel
  have exact_score :=
    score_exact .standard
      [⟨"a.", ["b."], ["b."], [], [], [], [], none, .exited 0⟩,
        ⟨"c.", ["b."], ["d."], [], [], [], [], none, .exited 0⟩]
      (some ⟨"unused variable"⟩) nonneg
  refine ⟨nonneg, exact_score.2.2.1, ?_⟩
  rw [← Plan.maxScore_standard]
  exact exact_score.2.2.2.1

end ResolverGrader
