import Mathlib.Data.Set.Image
import ResolverGrader.Proofs.Check.Outcome
import ResolverGrader.Proofs.Text.Blank

/-!
# Answers as sets

Printed and expected answers are compared as the sets of their normal forms.  A
submission prints the lines of its output that hold a visible character; how
the lines are ordered and how often each occurs cannot be seen after the
comparison.

`compare_equal_iff` says that the comparison decides equality of sets, and
`mem_answers_ofRuns` and `mem_expectedAnswers_ofRuns` say which sets a trial
compares.
-/

namespace ResolverGrader

open ResolverGrader.Text

namespace Answer

/-- The lines of an output that hold a visible character. -/
def printedLines (stdout : Octets) : Set String :=
  {line | line.toList ∈ pieces (Utf8.decode stdout) ∧
    ∃ character ∈ line.toList, isBlank character = false}

/-- The normal forms of some answers. -/
def normalForms (answers : Set String) : Set String :=
  normalize '' answers

theorem mem_ofOutput {line : String} {stdout : Octets} :
    line ∈ ofOutput stdout ↔ line ∈ printedLines stdout := by
  unfold ofOutput printedLines
  rw [mem_sorted, List.mem_map, Set.mem_ofPred_eq, ← trim_ne_nil_iff]
  constructor
  · rintro ⟨characters, member, rfl⟩
    rw [String.toList_ofList]
    simpa using List.mem_filter.mp member
  · rintro ⟨member, visible⟩
    refine ⟨line.toList, ?_, String.ofList_toList⟩
    simpa using And.intro member visible

theorem difference_eq_nil_iff (present absent : List String) :
    difference present absent = [] ↔
      ∀ answer ∈ present, answer ∈ absent := by
  rw [List.eq_nil_iff_forall_not_mem]
  simp only [mem_difference, not_and, not_not]

/--
Two lists of answers compare equal exactly if they have the same entries.
-/
theorem compare_equal_iff (actual expected : List String) :
    (compare actual expected).equal = true ↔
      ∀ answer, answer ∈ actual ↔ answer ∈ expected := by
  unfold compare Comparison.equal
  rw [Bool.and_eq_true, List.isEmpty_iff, List.isEmpty_iff,
    difference_eq_nil_iff, difference_eq_nil_iff]
  constructor
  · rintro ⟨noneMissing, noneExtra⟩ answer
    exact ⟨noneExtra answer, noneMissing answer⟩
  · intro same
    exact ⟨fun answer => (same answer).mpr, fun answer => (same answer).mp⟩

theorem hasName_eq_true_iff (answers : List String) :
    hasName answers = true ↔
      ∃ answer ∈ answers, isNumeric answer = false := by
  simp [hasName]

end Answer

open Answer

theorem mem_answers_ofRuns
    {queryName : String} {traced checked : Run}
    {expectedQuery : Octets} {expectedAnswers : List String}
    {answer : String} :
    answer ∈ (Trial.ofRuns queryName traced checked expectedQuery
        expectedAnswers).answers ↔
      answer ∈ normalForms (printedLines traced.stdout) := by
  show answer ∈ sorted (normalizeAll (ofOutput traced.stdout)) ↔ _
  rw [mem_sorted, normalizeAll, List.mem_map]
  simp only [mem_ofOutput]
  rfl

theorem mem_expectedAnswers_ofRuns
    {queryName : String} {traced checked : Run}
    {expectedQuery : Octets} {expectedAnswers : List String}
    {answer : String} :
    answer ∈ (Trial.ofRuns queryName traced checked expectedQuery
        expectedAnswers).expectedAnswers ↔
      answer ∈ normalForms {expected | expected ∈ expectedAnswers} := by
  show answer ∈ sorted (normalizeAll expectedAnswers) ↔ _
  rw [mem_sorted, normalizeAll, List.mem_map]
  rfl

/--
A comparison of answers passes a process that succeeded and answered with the
expected set.
-/
theorem Check.isPass_answersMatch_iff
    (headline : String) (trial : Trial) :
    (answersMatch headline trial).isPass = true ↔
      trial.exit = .exited 0 ∧
        ∀ answer,
          answer ∈ trial.answers ↔ answer ∈ trial.expectedAnswers := by
  rw [← Exit.isSuccess_iff, ← compare_equal_iff]
  unfold answersMatch
  cases trial.exit.isSuccess with
  | false => simp
  | true =>
      cases (Answer.compare trial.answers trial.expectedAnswers).equal with
      | false => simp
      | true => simp

/--
Where a category that compares answers is about the trial, it passes for the
right answers.
-/
theorem passes_iff_of_isAbout
    {category : Category}
    (compares : category.comparesAnswers = true) {trial : Trial}
    (about : category.IsAbout trial.queryName trial.expectedAnswers) :
    Passes category trial ↔
      trial.exit = .exited 0 ∧
        ∀ answer,
          answer ∈ trial.answers ↔ answer ∈ trial.expectedAnswers := by
  obtain ⟨headline, matched⟩ :=
    check_eq_answersMatch compares trial about
  rw [← Check.isPass_answersMatch_iff headline]
  constructor
  · rintro ⟨outcome, checked, isPass⟩
    rw [matched, Option.some.injEq] at checked
    rwa [checked]
  · intro isPass
    exact ⟨_, matched, isPass⟩

end ResolverGrader
