import ResolverGrader.Proofs.Check.Reasons
import ResolverGrader.Report

/-!
# The lines of a report

A report mixes lines of the grader with the reasons of failures, which show
what a submission said.  A grade is read from the lines that begin with `- FAIL
(`, `- PASS (` or `Final score: `.

Of the grader's own lines those that frame a section begin otherwise, and those
that list the points are asides: no grade is read from them.  Neither is one
from any line of a reason, because these begin unlike all lines of the grader.
-/

namespace ResolverGrader.Report

open ResolverGrader.Text

/-- The lines of entries that are ended one by one. -/
def linesOf (entries : List String) : List (List Char) :=
  entries.flatMap fun entry => pieces entry.toList

@[simp]
theorem linesOf_append (left right : List String) :
    linesOf (left ++ right) = linesOf left ++ linesOf right :=
  List.flatMap_append

theorem linesOf_cons_of_not_mem
    {entry : String} (oneLine : '\n' ∉ entry.toList)
    (rest : List String) :
    linesOf (entry :: rest) = entry.toList :: linesOf rest := by
  unfold linesOf
  rw [List.flatMap_cons, pieces_of_not_mem oneLine]
  rfl

theorem linesOf_singleton
    {entry : String} (oneLine : '\n' ∉ entry.toList) :
    linesOf [entry] = [entry.toList] :=
  linesOf_cons_of_not_mem oneLine []

theorem linesOf_flatMap
    {α : Type} (items : List α) (entries : α → List String) :
    linesOf (items.flatMap entries) =
      (items.map fun item => linesOf (entries item)).flatten := by
  rw [← List.flatMap_def]
  exact List.flatMap_assoc

theorem linesOf_map
    {α : Type} {items : List α} {entry : α → String}
    (oneLine : ∀ item ∈ items, '\n' ∉ (entry item).toList) :
    linesOf (items.map entry) =
      items.map fun item => (entry item).toList := by
  unfold linesOf
  rw [List.flatMap_map,
    ← List.flatMap_map (f := fun item => (entry item).toList)]
  exact flatMap_split_of_not_mem (List.forall_mem_map.mpr oneLine)

/-! ## How the lines of a report begin -/

/-- What the grader's own lines begin with. -/
def reportMarks : List String :=
  ["- ", "Final score:", "Done ", "Checking "]

/-- What the lines that a grade is read from begin with. -/
def gradeOpenings : List String :=
  ["- FAIL (", "- PASS (", "Final score: "]

/-- A line that no grade is read from. -/
def IsAside (line : List Char) : Prop :=
  ∀ first ∈ gradeOpenings, ¬ first.toList <+: line

instance (line : List Char) : Decidable (IsAside line) :=
  List.decidableBAll _ gradeOpenings

/-- A text that no line of a reason begins with. -/
def IsApart (first : String) : Prop :=
  ∀ opening ∈ reasonOpenings, Clash opening first

instance (first : String) : Decidable (IsApart first) :=
  List.decidableBAll _ reasonOpenings

theorem IsApart.not_begins
    {first : String} (apart : IsApart first)
    {reason : String} (isReason : IsReason reason)
    {line : List Char} (member : line ∈ pieces reason.toList) :
    ¬ first.toList <+: line := by
  obtain ⟨opening, listed, begins⟩ := isReason line member
  exact (apart opening listed).not_begins begins

theorem IsApart.ne_nil
    {first : String} (apart : IsApart first) : first.toList ≠ [] := by
  intro none
  have clash := apart "The " (by decide)
  exact clash.2 (none ▸ List.nil_prefix)

/-- No line of a reason begins like a line of the grader. -/
theorem not_reportMark_of_mem_reason
    {reason : String} (isReason : IsReason reason)
    {line : List Char} (member : line ∈ pieces reason.toList) :
    ∀ reportMark ∈ reportMarks, ¬ reportMark.toList <+: line := by
  have apart : ∀ reportMark ∈ reportMarks, IsApart reportMark := by
    decide
  exact fun reportMark isMark =>
    (apart reportMark isMark).not_begins isReason member

/-! ## Single lines -/

theorem newline_not_mem_label (category : Category) :
    '\n' ∉ category.label.toList := by
  cases category <;> decide

theorem fraction_characters (points possible : Float) :
    ∀ character ∈ (fraction points possible).toList,
      Decimal.IsPointsCharacter character ∨ character = '/' := by
  intro character member
  unfold fraction at member
  simp only [String.toList_append, List.mem_append] at member
  rcases member with (earned | slash) | most
  · exact Or.inl (Decimal.isPointsText_twoPlaces points character earned)
  · exact Or.inr (List.mem_singleton.mp slash)
  · exact Or.inl (Decimal.isPointsText_twoPlaces possible character most)

theorem newline_not_mem_twoPlaces (value : Float) :
    '\n' ∉ (Decimal.twoPlaces value).toList := by
  intro member
  exact absurd (Decimal.isPointsText_twoPlaces value '\n' member)
    (by decide)

theorem newline_not_mem_fraction (points possible : Float) :
    '\n' ∉ (fraction points possible).toList := by
  intro member
  exact absurd (fraction_characters points possible '\n' member)
    (by decide)

theorem newline_not_mem_header (score : CategoryScore Float) :
    '\n' ∉ (header score).toList := by
  unfold header
  simp only [not_mem_toList_append]
  exact ⟨⟨⟨⟨by decide, newline_not_mem_label _⟩, by decide⟩,
    newline_not_mem_twoPlaces _⟩, by decide⟩

theorem newline_not_mem_ungradedNotice (score : CategoryScore Float) :
    '\n' ∉ (ungradedNotice score).toList := by
  unfold ungradedNotice
  simp only [not_mem_toList_append]
  exact ⟨⟨by decide, newline_not_mem_label _⟩, by decide⟩

theorem newline_not_mem_footer (score : CategoryScore Float) :
    '\n' ∉ (footer score).toList := by
  unfold footer
  simp only [not_mem_toList_append]
  exact ⟨⟨⟨⟨by decide, newline_not_mem_label _⟩, by decide⟩,
    newline_not_mem_fraction _ _⟩, by decide⟩

theorem newline_not_mem_summaryLine (score : CategoryScore Float) :
    '\n' ∉ (summaryLine score).toList := by
  unfold summaryLine
  simp only [not_mem_toList_append]
  refine ⟨⟨⟨⟨by decide, newline_not_mem_fraction _ _⟩, by decide⟩,
    newline_not_mem_label _⟩, ?_⟩
  split <;> decide

theorem newline_not_mem_finalLine (ledger : Ledger Float) :
    '\n' ∉ (finalLine ledger).toList := by
  unfold finalLine
  rw [not_mem_toList_append]
  exact ⟨by decide, newline_not_mem_fraction _ _⟩

/-- What the lines around the verdicts of a section begin with. -/
def frameOpenings : List String :=
  ["Checking ", "Unable ", "Done "]

theorem checking_prefix_header (score : CategoryScore Float) :
    "Checking ".toList <+: (header score).toList := by
  unfold header
  iterate 4 refine prefix_toList_append ?_ _
  decide

theorem unable_prefix_ungradedNotice (score : CategoryScore Float) :
    "Unable to grade section ".toList <+: (ungradedNotice score).toList := by
  unfold ungradedNotice
  iterate 2 refine prefix_toList_append ?_ _
  exact List.prefix_refl _

theorem done_prefix_footer (score : CategoryScore Float) :
    "Done checking for ".toList <+: (footer score).toList := by
  unfold footer
  iterate 4 refine prefix_toList_append ?_ _
  decide

theorem exists_head_fraction (points possible : Float) :
    ∃ head rest, (fraction points possible).toList = head :: rest ∧
      (Decimal.IsPointsCharacter head ∨ head = '/') := by
  have characters := fraction_characters points possible
  cases shown : (fraction points possible).toList with
  | nil => simp [fraction] at shown
  | cons head rest =>
      rw [shown, List.forall_mem_cons] at characters
      exact ⟨head, rest, rfl, characters.1⟩

/--
A line in the list of points goes on with a number where a verdict has its
mark.
-/
theorem isAside_summaryLine (score : CategoryScore Float) :
    IsAside (summaryLine score).toList := by
  obtain ⟨head, rest, shown, isPoints⟩ :=
    exists_head_fraction score.awarded score.maxPoints
  have notFail : head ≠ 'F' := by
    rintro rfl
    exact absurd isPoints (by decide)
  have notPass : head ≠ 'P' := by
    rintro rfl
    exact absurd isPoints (by decide)
  unfold IsAside gradeOpenings summaryLine
  simp only [String.toList_append, shown, List.forall_mem_cons]
  refine ⟨?_, ?_, ?_, List.forall_mem_nil _⟩
  · simp [notFail.symm]
  · simp [notPass.symm]
  · simp

end ResolverGrader.Report
