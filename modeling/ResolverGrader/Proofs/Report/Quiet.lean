import ResolverGrader.Report

/-!
# Quiet reports

A report is put together from parts: lines that the grader writes itself, and
verdicts with what is said about them.  A verbose report has all parts of a
ledger.  A quiet one has the same parts in the same order, less the verdicts
that passed, so it looks as if there were no such verdicts.

`quiet_report_omits_passes` says this of every ledger.  Nothing is assumed
about its points or about how its flags and its verdicts fit together: a graded
category may be left without any verdict, one that is ungraded may have some,
and a verdict that passed may have a reason.
-/

namespace ResolverGrader

section

variable {α : Type}

/--
A category's score without the verdicts that passed.  Its points and its flag
stay.
-/
def CategoryScore.withoutPasses (score : CategoryScore α) :
    CategoryScore α :=
  { score with
    verdicts :=
      score.verdicts.filter fun verdict => !verdict.outcome.isPass }

/-- A ledger without the verdicts that passed.  All its points stay. -/
def Ledger.withoutPasses (ledger : Ledger α) : Ledger α :=
  { ledger with
    categories := ledger.categories.map CategoryScore.withoutPasses }

/-- What a category was awarded is not reckoned again. -/
@[simp]
theorem Ledger.total_withoutPasses
    [Points α] (ledger : Ledger α) :
    ledger.withoutPasses.total = ledger.total := by
  simp [total, withoutPasses, CategoryScore.withoutPasses,
    Function.comp_def]

end

namespace Report

open ResolverGrader.Text

/-! ## Parts of a report -/

/-- A part of a report. -/
inductive Part where
  /-- A line that the grader writes itself. -/
  | frame (line : String)
  /-- A verdict, with its reason if it has one. -/
  | result (verdict : Verdict Float)

namespace Part

/-- What a report says in a part. -/
def entries : Part → List String
  | .frame line => [line]
  | .result verdict => verdictEntries verdict

/--
Whether a report has a part: verdicts that passed are left to verbose ones.
-/
def isShown (verbose : Bool) : Part → Bool
  | .frame _ => true
  | .result verdict => verbose || !verdict.outcome.isPass

theorem isShown_verbose (part : Part) : part.isShown true = true := by
  cases part with
  | frame line => rfl
  | result verdict => rfl

end Part

/-- The parts of a category's section. -/
def sectionParts (score : CategoryScore Float) : List Part :=
  .frame (header score) ::
    (if score.graded then
      score.verdicts.map .result ++ [.frame (footer score)]
    else [.frame (ungradedNotice score)]) ++ [.frame ""]

/-- The parts of everything that there is to report about a ledger. -/
def parts (ledger : Ledger Float) : List Part :=
  .frame "" :: ledger.categories.flatMap sectionParts ++
    .frame "Done grading, awarded points:" ::
      ledger.categories.map (fun score => .frame (summaryLine score)) ++
        [.frame "", .frame (finalLine ledger)]

/-! ## What is shown of them -/

section

variable (verbose : Bool)

@[simp]
theorem filter_frame_cons (line : String) (rest : List Part) :
    (.frame line :: rest).filter (Part.isShown verbose) =
      .frame line :: rest.filter (Part.isShown verbose) :=
  rfl

@[simp]
theorem filter_frames
    {α : Type} (line : α → String) (items : List α) :
    (items.map fun item => Part.frame (line item)).filter
        (Part.isShown verbose) =
      items.map fun item => .frame (line item) := by
  apply List.filter_eq_self.mpr
  rw [List.forall_mem_map]
  exact fun _ _ => rfl

theorem filter_results (verdicts : List (Verdict Float)) :
    (verdicts.map Part.result).filter (Part.isShown verbose) =
      (shown verbose verdicts).map .result :=
  List.filter_map

/-- What a report says that has been made of parts. -/
def written (all : List Part) : List String :=
  (all.filter (Part.isShown verbose)).flatMap Part.entries

@[simp]
theorem written_append (left right : List Part) :
    written verbose (left ++ right) =
      written verbose left ++ written verbose right := by
  simp [written]

@[simp]
theorem written_frame_cons (line : String) (rest : List Part) :
    written verbose (.frame line :: rest) =
      line :: written verbose rest :=
  rfl

@[simp]
theorem written_nil : written verbose [] = [] := rfl

@[simp]
theorem written_frames
    {α : Type} (line : α → String) (items : List α) :
    written verbose (items.map fun item => .frame (line item)) =
      items.map line := by
  induction items with
  | nil => rfl
  | cons item rest ih => simp [ih]

@[simp]
theorem written_results (verdicts : List (Verdict Float)) :
    written verbose (verdicts.map .result) =
      (shown verbose verdicts).flatMap verdictEntries := by
  simp [written, filter_results, List.flatMap_map, Part.entries]

theorem written_flatMap
    {α : Type} (part : α → List Part) (items : List α) :
    written verbose (items.flatMap part) =
      items.flatMap fun item => written verbose (part item) := by
  simp [written, List.filter_flatMap, List.flatMap_assoc]

/-- A section says what its parts say. -/
theorem written_sectionParts (score : CategoryScore Float) :
    written verbose (sectionParts score) = sectionEntries verbose score := by
  unfold sectionParts sectionEntries
  cases score.graded with
  | true => simp
  | false => simp

/-- A report says what the parts of the ledger say. -/
theorem written_parts (ledger : Ledger Float) :
    written verbose (parts ledger) = entries ledger verbose := by
  simp [parts, entries, written_flatMap, written_sectionParts]

end

/-- In a verbose report nothing is left out. -/
theorem written_verbose (all : List Part) :
    written true all = all.flatMap Part.entries := by
  have everything : all.filter (Part.isShown true) = all :=
    List.filter_eq_self.mpr fun part _ => part.isShown_verbose
  rw [written, everything]

/-! ## Leaving out what passed -/

/--
What a section loses with the verdicts that passed is what a quiet report does
not show.
-/
theorem sectionParts_withoutPasses (score : CategoryScore Float) :
    sectionParts score.withoutPasses =
      (sectionParts score).filter (Part.isShown false) := by
  have results :
      score.withoutPasses.verdicts.map Part.result =
        (score.verdicts.map Part.result).filter (Part.isShown false) :=
    (filter_results false score.verdicts).symm
  -- What the grader writes itself looks at points and flags, and these stay.
  have framed :
      sectionParts score.withoutPasses =
        .frame (header score) ::
          (if score.graded then
            score.withoutPasses.verdicts.map .result ++
              [.frame (footer score)]
          else [.frame (ungradedNotice score)]) ++ [.frame ""] :=
    rfl
  rw [framed, results]
  unfold sectionParts
  cases score.graded with
  | true => simp
  | false => simp

/-- Outside the sections nothing depends on verdicts. -/
theorem parts_withoutPasses (ledger : Ledger Float) :
    parts ledger.withoutPasses =
      (parts ledger).filter (Part.isShown false) := by
  have sections :
      ledger.withoutPasses.categories.flatMap sectionParts =
        (ledger.categories.flatMap sectionParts).filter
          (Part.isShown false) := by
    simp only [Ledger.withoutPasses, List.flatMap_map,
      sectionParts_withoutPasses, List.filter_flatMap]
  have summary :
      (ledger.withoutPasses.categories.map fun score =>
          Part.frame (summaryLine score)) =
        ledger.categories.map fun score => .frame (summaryLine score) :=
    List.map_map
  have final : finalLine ledger.withoutPasses = finalLine ledger := by
    unfold finalLine
    rw [Ledger.total_withoutPasses]
    rfl
  unfold parts
  rw [sections, summary, final]
  simp

/--
Both kinds of report are made of the parts of one list.  A verbose report has
all of them; a quiet one has all but the verdicts that passed, in the same
order.  So it is the verbose report of the ledger without these verdicts.
-/
theorem quiet_report_omits_passes (ledger : Ledger Float) :
    text ledger false = text ledger.withoutPasses true ∧
      text ledger true =
        endLines ((parts ledger).flatMap Part.entries) ∧
      text ledger false =
        endLines
          (((parts ledger).filter (Part.isShown false)).flatMap
            Part.entries) := by
  have verbose (ledger : Ledger Float) :
      text ledger true =
        endLines ((parts ledger).flatMap Part.entries) := by
    unfold text
    rw [← written_parts, written_verbose]
  have quiet :
      text ledger false =
        endLines
          (((parts ledger).filter (Part.isShown false)).flatMap
            Part.entries) := by
    unfold text
    rw [← written_parts]
    rfl
  refine ⟨?_, verbose ledger, quiet⟩
  rw [quiet, verbose, parts_withoutPasses]

end Report

end ResolverGrader
