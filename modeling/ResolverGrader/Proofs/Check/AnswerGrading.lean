import Mathlib.Data.Finset.Image
import ResolverGrader.Proofs.Answer.Sets

/-!
# How answers are graded

Three categories share the trials out among themselves: plain answers, answers
that lead through an alias, and names that do not resolve.  The set of expected
answers picks one of them, and that one passes a traced run that succeeded and
printed the expected set.  Trials of the root count once more for a category of
their own, with the same result.

`answers_graded` states this for all runs and all expected answers.
-/

namespace ResolverGrader

open Answer

/-- The categories that share the trials out among themselves. -/
def answerCategories : List Category :=
  [.findsAnswer, .handlesCname, .handlesNxdomain]

/-- The category that a set of expected answers picks. -/
def answerCategory (expectedAnswers : Finset String) : Category :=
  if expectedAnswers = ∅ then .handlesNxdomain
  else if ∃ answer ∈ expectedAnswers,
      isNumeric (normalize answer) = false then
    .handlesCname
  else .findsAnswer

theorem answerCategory_mem (expectedAnswers : Finset String) :
    answerCategory expectedAnswers ∈ answerCategories := by
  unfold answerCategory answerCategories
  split
  · simp
  · split <;> simp

theorem comparesAnswers_of_mem
    {category : Category} (member : category ∈ answerCategories) :
    category.comparesAnswers = true := by
  simp only [answerCategories, List.mem_cons, List.not_mem_nil,
    or_false] at member
  rcases member with rfl | rfl | rfl <;> rfl

/--
A category that compares answers passes the traced run that printed the
expected set.
-/
theorem passes_ofRuns_iff
    {queryName : String} {traced checked : Run}
    {expectedQuery : Octets} {expectedAnswers : List String}
    {category : Category}
    (compares : category.comparesAnswers = true)
    (applies :
      Applies category
        (.ofRuns queryName traced checked expectedQuery
          expectedAnswers)) :
    Passes category
        (.ofRuns queryName traced checked expectedQuery
          expectedAnswers) ↔
      traced.exit = .exited 0 ∧
        normalForms (printedLines traced.stdout) =
          normalForms {answer | answer ∈ expectedAnswers} := by
  rw [passes_iff_of_isAbout compares ((applies_iff _ _).mp applies)]
  refine and_congr Iff.rfl ?_
  simp only [mem_answers_ofRuns, mem_expectedAnswers_ofRuns]
  exact Set.ext_iff.symm

section

variable
    (queryName : String) (traced checked : Run)
    (expectedQuery : Octets) (expectedAnswers : List String)

theorem expectedAnswers_ofRuns_eq_nil_iff :
    (Trial.ofRuns queryName traced checked expectedQuery
        expectedAnswers).expectedAnswers = [] ↔
      expectedAnswers.toFinset = ∅ := by
  rw [List.toFinset_eq_empty_iff, ← List.length_eq_zero_iff,
    ← List.length_eq_zero_iff]
  show (Text.sorted (normalizeAll expectedAnswers)).length = 0 ↔ _
  rw [Text.length_sorted, length_normalizeAll]

theorem hasName_expectedAnswers_ofRuns_iff :
    hasName (Trial.ofRuns queryName traced checked expectedQuery
        expectedAnswers).expectedAnswers = true ↔
      ∃ answer ∈ expectedAnswers.toFinset,
        isNumeric (normalize answer) = false := by
  rw [hasName_eq_true_iff]
  simp only [mem_expectedAnswers_ofRuns, List.mem_toFinset]
  constructor
  · rintro ⟨_, ⟨answer, member, rfl⟩, named⟩
    exact ⟨answer, member, named⟩
  · rintro ⟨answer, member, named⟩
    exact ⟨_, ⟨answer, member, rfl⟩, named⟩

/--
Of the three categories the one that is picked applies to a trial, and no
other.
-/
theorem applies_ofRuns_iff
    {category : Category} (member : category ∈ answerCategories) :
    Applies category
        (.ofRuns queryName traced checked expectedQuery
          expectedAnswers) ↔
      answerCategory expectedAnswers.toFinset = category := by
  have empty_iff :=
    expectedAnswers_ofRuns_eq_nil_iff queryName traced checked
      expectedQuery expectedAnswers
  have named_iff :=
    hasName_expectedAnswers_ofRuns_iff queryName traced checked
      expectedQuery expectedAnswers
  rw [applies_iff]
  unfold answerCategory
  generalize Trial.ofRuns queryName traced checked expectedQuery
    expectedAnswers = trial at empty_iff named_iff ⊢
  simp only [answerCategories, List.mem_cons, List.not_mem_nil,
    or_false] at member
  by_cases empty : trial.expectedAnswers = []
  · rw [if_pos (empty_iff.mp empty)]
    rcases member with rfl | rfl | rfl <;>
      simp [Category.IsAbout, empty]
  · rw [if_neg fun nothing => empty (empty_iff.mpr nothing)]
    cases named : hasName trial.expectedAnswers with
    | true =>
        rw [if_pos (named_iff.mp named)]
        rcases member with rfl | rfl | rfl <;>
          simp [Category.IsAbout, empty, named]
    | false =>
        have unnamed :
            ¬ ∃ answer ∈ expectedAnswers.toFinset,
              isNumeric (normalize answer) = false := by
          rw [← named_iff, named]
          exact Bool.false_ne_true
        rw [if_neg unnamed]
        rcases member with rfl | rfl | rfl <;>
          simp [Category.IsAbout, empty, named]

theorem applies_answerCategory :
    Applies (answerCategory expectedAnswers.toFinset)
      (.ofRuns queryName traced checked expectedQuery expectedAnswers) :=
  (applies_ofRuns_iff queryName traced checked expectedQuery
    expectedAnswers (answerCategory_mem _)).mpr rfl

theorem passes_answerCategory_iff :
    Passes (answerCategory expectedAnswers.toFinset)
        (.ofRuns queryName traced checked expectedQuery
          expectedAnswers) ↔
      traced.exit = .exited 0 ∧
        normalForms (printedLines traced.stdout) =
          normalForms {answer | answer ∈ expectedAnswers} :=
  passes_ofRuns_iff (comparesAnswers_of_mem (answerCategory_mem _))
    (applies_answerCategory queryName traced checked expectedQuery
      expectedAnswers)

end

/-- The traced run alone is looked at where answers are compared. -/
theorem check_ofRuns_congr
    (queryName : String) (traced checked other : Run)
    (expectedQuery : Octets) (expectedAnswers : List String)
    {category : Category}
    (compares : category.comparesAnswers = true) :
    check category
        (.ofRuns queryName traced checked expectedQuery
          expectedAnswers) =
      check category
        (.ofRuns queryName traced other expectedQuery
          expectedAnswers) := by
  cases category with
  | findsAnswer | handlesCname | handlesNxdomain | handlesRoot => rfl
  | memoryLeaks | compilerWarnings | wellFormedQuery | sendAndReceive =>
      simp [Category.comparesAnswers] at compares

theorem passed_eq_of_passes_iff
    {first second : Category} {trial : Trial}
    (firstApplies : Applies first trial)
    (secondApplies : Applies second trial)
    (same : Passes first trial ↔ Passes second trial) :
    (check first trial).bind Outcome.passed =
      (check second trial).bind Outcome.passed := by
  obtain ⟨firstOutcome, firstChecked, firstCounts⟩ := firstApplies
  obtain ⟨secondOutcome, secondChecked, secondCounts⟩ := secondApplies
  have firstPassed := Outcome.passed_eq_some_isPass
    (check_decided firstChecked firstCounts)
  have secondPassed := Outcome.passed_eq_some_isPass
    (check_decided secondChecked secondCounts)
  simp only [Passes, firstChecked, secondChecked, Option.some.injEq,
    exists_eq_left'] at same
  rw [firstChecked, secondChecked, Option.bind_some, Option.bind_some,
    firstPassed, secondPassed, Option.some.injEq]
  exact Bool.eq_iff_iff.mpr same

/--
Exactly one of the three categories applies to a trial, and the set of expected
answers alone picks it.  It passes exactly if the traced process succeeded and
the normal forms of the lines it printed are those of the expected answers.
The category for the root applies exactly to trials of the root and passes with
the one that is picked.  The checked run has no part in any of this.
-/
theorem answers_graded
    (queryName : String) (traced checked : Run)
    (expectedQuery : Octets) (expectedAnswers : List String) :
    let trial :=
      Trial.ofRuns queryName traced checked expectedQuery expectedAnswers
    let picked := answerCategory expectedAnswers.toFinset
    (∃! category, category ∈ answerCategories ∧ Applies category trial) ∧
      (picked ∈ answerCategories ∧ Applies picked trial) ∧
      (Passes picked trial ↔
        traced.exit = .exited 0 ∧
          normalForms (printedLines traced.stdout) =
            normalForms {answer | answer ∈ expectedAnswers}) ∧
      (Applies .handlesRoot trial ↔ queryName = ".") ∧
      (check .handlesRoot trial).bind Outcome.passed =
        (if queryName = "." then (check picked trial).bind Outcome.passed
          else none) ∧
      ∀ other : Run,
        (Category.handlesRoot :: answerCategories).map (check · trial) =
          (Category.handlesRoot :: answerCategories).map
            (check · (.ofRuns queryName traced other expectedQuery
              expectedAnswers)) := by
  intro trial picked
  have picked_mem : picked ∈ answerCategories :=
    answerCategory_mem expectedAnswers.toFinset
  have picked_applies : Applies picked trial :=
    applies_answerCategory queryName traced checked expectedQuery
      expectedAnswers
  have picked_passes :=
    passes_answerCategory_iff queryName traced checked expectedQuery
      expectedAnswers
  have root_iff : Applies .handlesRoot trial ↔ queryName = "." :=
    applies_iff .handlesRoot trial
  refine ⟨⟨picked, ⟨picked_mem, picked_applies⟩, ?_⟩,
    ⟨picked_mem, picked_applies⟩, picked_passes, root_iff, ?_, ?_⟩
  · rintro category ⟨member, applies⟩
    exact ((applies_ofRuns_iff queryName traced checked expectedQuery
      expectedAnswers member).mp applies).symm
  · by_cases root : queryName = "."
    · rw [if_pos root]
      have root_applies := root_iff.mpr root
      have root_passes := passes_ofRuns_iff rfl root_applies
      exact passed_eq_of_passes_iff root_applies picked_applies
        (root_passes.trans picked_passes.symm)
    · have passed_over :
          check .handlesRoot trial = some .notApplicable :=
        check_eq_notApplicable rfl trial root
      rw [if_neg root, passed_over]
      rfl
  · intro other
    apply List.map_congr_left
    intro category member
    apply check_ofRuns_congr
    rcases List.mem_cons.mp member with rfl | plain
    · rfl
    · exact comparesAnswers_of_mem plain

end ResolverGrader
