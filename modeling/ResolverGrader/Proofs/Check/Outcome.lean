import ResolverGrader.Check

/-!
# What a check says

A check that applies to a trial always decides it: the trial passes and no
reason is given, or it fails and one is.  Whether a check applies can be known
before the submission is run, because only the query name and the expected
answers are looked at.

`check_decided` is the first statement, over every category and every trial,
and `applies_iff` the second.
-/

namespace ResolverGrader

/--
An outcome that counts: it applies, it says whether the trial passed, and it
gives a reason exactly for a failure.
-/
structure Outcome.Decided (outcome : Outcome) : Prop where
  applies : outcome.applies = true
  passed_isSome : outcome.passed.isSome = true
  reason_isSome_iff :
    outcome.reason.isSome = true ↔ outcome.passed = some false

namespace Outcome

theorem decided_pass : Decided .pass where
  applies := rfl
  passed_isSome := rfl
  reason_isSome_iff := by simp [pass]

theorem decided_fail (reason : String) : Decided (.fail reason) where
  applies := rfl
  passed_isSome := rfl
  reason_isSome_iff := by simp [fail]

@[simp]
theorem isPass_pass : Outcome.isPass .pass = true := rfl

@[simp]
theorem isPass_fail (reason : String) :
    (Outcome.fail reason).isPass = false := rfl

theorem isPass_eq_true_iff (outcome : Outcome) :
    outcome.isPass = true ↔ outcome.passed = some true := by
  simp [isPass]

theorem passed_eq_some_isPass
    {outcome : Outcome} (decided : outcome.Decided) :
    outcome.passed = some outcome.isPass := by
  obtain ⟨passed, equal⟩ :=
    Option.isSome_iff_exists.mp decided.passed_isSome
  cases passed <;> simp [isPass, equal]

end Outcome

open Outcome

namespace Check

theorem memoryLeaks_decided (trial : Trial) :
    (memoryLeaks trial).Decided := by
  unfold memoryLeaks
  cases trial.memcheckExit with
  | none => exact decided_fail _
  | some exit =>
      cases success : exit.isSuccess with
      | true => simpa [success] using decided_pass
      | false => simpa [success] using decided_fail _

theorem wellFormedQuery_decided (trial : Trial) :
    (wellFormedQuery trial).Decided := by
  unfold wellFormedQuery
  split
  · exact decided_pass
  · exact decided_fail _

theorem sendAndReceive_decided (trial : Trial) :
    (sendAndReceive trial).Decided := by
  unfold sendAndReceive
  split
  · exact decided_fail _
  · split
    · exact decided_pass
    · exact decided_fail _

theorem answersMatch_decided (headline : String) (trial : Trial) :
    (answersMatch headline trial).Decided := by
  unfold answersMatch
  split
  · exact decided_fail _
  · split
    · exact decided_pass
    · exact decided_fail _

end Check

/-- The check of a category applies to a trial. -/
def Applies (category : Category) (trial : Trial) : Prop :=
  ∃ outcome, check category trial = some outcome ∧ outcome.applies = true

/-- The check of a category applies to a trial, and the trial passes it. -/
def Passes (category : Category) (trial : Trial) : Prop :=
  ∃ outcome, check category trial = some outcome ∧ outcome.isPass = true

/-- The check of a category applies to a trial, and the trial fails it. -/
def Fails (category : Category) (trial : Trial) : Prop :=
  ∃ outcome, check category trial = some outcome ∧
    outcome.applies = true ∧ outcome.passed = some false

/-- Which trials a category is about, by what was asked and expected. -/
def Category.IsAbout
    (category : Category) (queryName : String)
    (expectedAnswers : List String) : Prop :=
  match category with
  | .memoryLeaks | .wellFormedQuery | .sendAndReceive => True
  | .compilerWarnings => False
  | .findsAnswer =>
      expectedAnswers ≠ [] ∧ Answer.hasName expectedAnswers = false
  | .handlesCname =>
      expectedAnswers ≠ [] ∧ Answer.hasName expectedAnswers = true
  | .handlesNxdomain => expectedAnswers = []
  | .handlesRoot => queryName = "."

/-- Whether a category is decided by comparing answers. -/
def Category.comparesAnswers : Category → Bool
  | .findsAnswer | .handlesCname | .handlesNxdomain | .handlesRoot => true
  | _ => false

/-- A category that compares answers does so wherever it is about the trial. -/
theorem check_eq_answersMatch
    {category : Category}
    (compares : category.comparesAnswers = true) (trial : Trial)
    (about : category.IsAbout trial.queryName trial.expectedAnswers) :
    ∃ headline,
      check category trial =
        some (Check.answersMatch headline trial) := by
  cases category with
  | findsAnswer =>
      have compared :
          ¬ (decide (trial.expectedAnswers = []) ||
            Answer.hasName trial.expectedAnswers) = true := by
        simp [about.1, about.2]
      exact ⟨_, congrArg some (if_neg compared)⟩
  | handlesCname =>
      have compared :
          ¬ (decide (trial.expectedAnswers = []) ||
            !Answer.hasName trial.expectedAnswers) = true := by
        simp [about.1, about.2]
      exact ⟨_, congrArg some (if_neg compared)⟩
  | handlesNxdomain =>
      exact ⟨_, congrArg some (if_neg (not_not_intro about))⟩
  | handlesRoot =>
      exact ⟨_, congrArg some (if_neg (not_not_intro about))⟩
  | memoryLeaks | compilerWarnings | wellFormedQuery | sendAndReceive =>
      simp [Category.comparesAnswers] at compares

/-- A category that compares answers passes over every other trial. -/
theorem check_eq_notApplicable
    {category : Category}
    (compares : category.comparesAnswers = true) (trial : Trial)
    (elsewhere :
      ¬ category.IsAbout trial.queryName trial.expectedAnswers) :
    check category trial = some .notApplicable := by
  cases category with
  | findsAnswer =>
      by_cases empty : trial.expectedAnswers = []
      · simp [check, Check.findsAnswer, empty]
      · have named : Answer.hasName trial.expectedAnswers = true := by
          simpa [Category.IsAbout, empty] using elsewhere
        simp [check, Check.findsAnswer, named]
  | handlesCname =>
      by_cases empty : trial.expectedAnswers = []
      · simp [check, Check.handlesCname, empty]
      · have unnamed : Answer.hasName trial.expectedAnswers = false := by
          simpa [Category.IsAbout, empty] using elsewhere
        simp [check, Check.handlesCname, unnamed]
  | handlesNxdomain =>
      have present : trial.expectedAnswers ≠ [] := elsewhere
      simp [check, Check.handlesNxdomain, present]
  | handlesRoot =>
      have other : trial.queryName ≠ "." := elsewhere
      simp [check, Check.handlesRoot, other]
  | memoryLeaks | compilerWarnings | wellFormedQuery | sendAndReceive =>
      simp [Category.comparesAnswers] at compares

/-- The check of every other category has decided, whatever the trial. -/
theorem check_decided_of_not_comparesAnswers
    {category : Category} {trial : Trial} {outcome : Outcome}
    (others : category.comparesAnswers = false)
    (checked : check category trial = some outcome) :
    outcome.Decided := by
  cases category with
  | memoryLeaks =>
      cases checked
      exact Check.memoryLeaks_decided trial
  | compilerWarnings => simp [check] at checked
  | wellFormedQuery =>
      cases checked
      exact Check.wellFormedQuery_decided trial
  | sendAndReceive =>
      cases checked
      exact Check.sendAndReceive_decided trial
  | findsAnswer | handlesCname | handlesNxdomain | handlesRoot =>
      simp [Category.comparesAnswers] at others

/-- A check that applies has decided. -/
theorem check_decided
    {category : Category} {trial : Trial} {outcome : Outcome}
    (checked : check category trial = some outcome)
    (applies : outcome.applies = true) :
    outcome.Decided := by
  cases compares : category.comparesAnswers with
  | false =>
      exact check_decided_of_not_comparesAnswers compares checked
  | true =>
      by_cases about :
          category.IsAbout trial.queryName trial.expectedAnswers
      · obtain ⟨headline, matched⟩ :=
          check_eq_answersMatch compares trial about
        rw [matched, Option.some.injEq] at checked
        rw [← checked]
        exact Check.answersMatch_decided headline trial
      · rw [check_eq_notApplicable compares trial about,
          Option.some.injEq] at checked
        rw [← checked] at applies
        simp [notApplicable] at applies

/-- A trial that a check applies to fails it or passes it. -/
theorem fails_iff (category : Category) (trial : Trial) :
    Fails category trial ↔
      Applies category trial ∧ ¬ Passes category trial := by
  constructor
  · rintro ⟨outcome, checked, applies, failed⟩
    refine ⟨⟨outcome, checked, applies⟩, ?_⟩
    rintro ⟨other, alsoChecked, isPass⟩
    rw [checked, Option.some.injEq] at alsoChecked
    rw [← alsoChecked, isPass_eq_true_iff, failed] at isPass
    simp at isPass
  · rintro ⟨⟨outcome, checked, applies⟩, notPassed⟩
    have passed_eq :=
      passed_eq_some_isPass (check_decided checked applies)
    have isPass_eq : outcome.isPass = false := by
      cases passed : outcome.isPass with
      | false => rfl
      | true => exact absurd ⟨outcome, checked, passed⟩ notPassed
    exact ⟨outcome, checked, applies, isPass_eq ▸ passed_eq⟩

theorem fails_iff_of_check
    {category : Category} {trial : Trial} {outcome : Outcome}
    (checked : check category trial = some outcome)
    (decided : outcome.Decided) :
    Fails category trial ↔ outcome.isPass = false := by
  unfold Fails
  simp only [checked, Option.some.injEq, exists_eq_left',
    decided.applies, true_and, passed_eq_some_isPass decided]

/-- A check applies exactly to the trials that its category is about. -/
theorem applies_iff (category : Category) (trial : Trial) :
    Applies category trial ↔
      category.IsAbout trial.queryName trial.expectedAnswers := by
  cases compares : category.comparesAnswers with
  | true =>
      by_cases about :
          category.IsAbout trial.queryName trial.expectedAnswers
      · obtain ⟨headline, matched⟩ :=
          check_eq_answersMatch compares trial about
        have decided := Check.answersMatch_decided headline trial
        exact iff_of_true ⟨_, matched, decided.applies⟩ about
      · refine iff_of_false ?_ about
        rintro ⟨outcome, checked, applies⟩
        rw [check_eq_notApplicable compares trial about,
          Option.some.injEq] at checked
        rw [← checked] at applies
        simp [notApplicable] at applies
  | false =>
      cases category with
      | memoryLeaks =>
          exact iff_of_true
            ⟨_, rfl, (Check.memoryLeaks_decided trial).applies⟩ trivial
      | wellFormedQuery =>
          exact iff_of_true
            ⟨_, rfl, (Check.wellFormedQuery_decided trial).applies⟩ trivial
      | sendAndReceive =>
          exact iff_of_true
            ⟨_, rfl, (Check.sendAndReceive_decided trial).applies⟩ trivial
      | compilerWarnings => simp [Applies, check, Category.IsAbout]
      | findsAnswer | handlesCname | handlesNxdomain | handlesRoot =>
          simp [Category.comparesAnswers] at compares

end ResolverGrader
