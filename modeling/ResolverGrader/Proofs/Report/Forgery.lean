import Mathlib.Data.List.Forall2
import ResolverGrader.Proofs.Ledger.Verdicts
import ResolverGrader.Proofs.Report.Lines

/-!
# Reports cannot be forged

Whoever reads the lines of a report that begin with `- FAIL (`, `- PASS (` or
`Final score: ` reads the grade and nothing else, whatever the submission
printed, sent or made the memory checker say.

`report_unforgeable` says which lines these are for every plan and all trials,
and in which section of the report they stand.
-/

namespace ResolverGrader.Report

open ResolverGrader.Text

/-! ## Verdicts -/

/--
A verdict of which the query name has one line and the reason, if any, looks
like a reason.
-/
structure IsOrderly (verdict : Verdict Float) : Prop where
  oneLine :
    ∀ queryName ∈ verdict.queryName, '\n' ∉ queryName.toList
  isReason :
    ∀ reason ∈ verdict.outcome.reason, IsReason reason

theorem newline_not_mem_verdictLine
    {verdict : Verdict Float} (orderly : IsOrderly verdict) :
    '\n' ∉ (verdictLine verdict).toList := by
  have marked : '\n' ∉ (mark verdict.outcome.isPass).toList := by
    cases verdict.outcome.isPass <;> decide
  have named : '\n' ∉ (subject verdict.queryName).toList := by
    cases name : verdict.queryName with
    | none => decide
    | some queryName =>
        have oneLine := orderly.oneLine queryName name
        unfold subject
        simp only [not_mem_toList_append]
        exact ⟨⟨by decide, oneLine⟩, by decide⟩
  unfold verdictLine
  simp only [not_mem_toList_append]
  exact ⟨⟨⟨⟨marked, by decide⟩, newline_not_mem_fraction _ _⟩,
    by decide⟩, named⟩

/-- What the first line of a verdict begins with. -/
def opening (passed : Bool) : String :=
  mark passed ++ " ("

theorem opening_prefix_verdictLine (verdict : Verdict Float) :
    (opening verdict.outcome.isPass).toList <+:
      (verdictLine verdict).toList := by
  unfold verdictLine
  iterate 3 refine prefix_toList_append ?_ _
  exact List.prefix_refl _

theorem begins_verdictLine_iff
    {first : String} {passed : Bool}
    (begins : first.toList <+: (opening passed).toList)
    (clash : Clash (opening !passed) first) (verdict : Verdict Float) :
    first.toList <+: (verdictLine verdict).toList ↔
      verdict.outcome.isPass = passed := by
  have opened := opening_prefix_verdictLine verdict
  constructor
  · intro alsoBegins
    by_contra other
    rw [Bool.eq_not.mpr other] at opened
    exact clash.not_begins opened alsoBegins
  · rintro rfl
    exact begins.trans opened

/--
What neither kind of verdict begins with is not found in their first lines.
-/
theorem linesFrom_map_verdictLine_eq_nil
    {first : String} (clash : ∀ passed : Bool, Clash (opening passed) first)
    (verdicts : List (Verdict Float)) :
    linesFrom first
        (verdicts.map fun verdict => (verdictLine verdict).toList) =
      [] := by
  refine linesFrom_eq_nil ?_
  rw [List.forall_mem_map]
  exact fun verdict _ =>
    (clash _).not_begins (opening_prefix_verdictLine verdict)

/--
Of all lines of a verdict only the first begins unlike the lines of reasons.
-/
theorem linesFrom_verdictEntries
    {verdict : Verdict Float} (orderly : IsOrderly verdict)
    {first : String} (apart : IsApart first) :
    linesFrom first (linesOf (verdictEntries verdict)) =
      linesFrom first [(verdictLine verdict).toList] := by
  have cut :
      linesOf (verdictEntries verdict) =
        (verdictLine verdict).toList ::
          linesOf (verdictEntries verdict).tail :=
    linesOf_cons_of_not_mem (newline_not_mem_verdictLine orderly) _
  have others :
      ∀ line ∈ linesOf (verdictEntries verdict).tail,
        ¬ first.toList <+: line := by
    unfold verdictEntries
    cases given : verdict.outcome.reason with
    | none => exact List.forall_mem_nil _
    | some reason =>
        rw [List.tail_cons,
          linesOf_cons_of_not_mem (by decide), List.forall_mem_cons]
        constructor
        · exact (apart "    " (by decide)).not_begins (by decide)
        · intro line member
          obtain ⟨entry, isReason, inside⟩ := List.mem_flatMap.mp member
          rw [List.mem_singleton.mp isReason] at inside
          exact apart.not_begins (orderly.isReason reason given) inside
  rw [cut, ← List.singleton_append, linesFrom_append,
    linesFrom_eq_nil others, List.append_nil]

theorem linesFrom_verdicts
    {verdicts : List (Verdict Float)}
    (orderly : ∀ verdict ∈ verdicts, IsOrderly verdict)
    {first : String} (apart : IsApart first) :
    linesFrom first (linesOf (verdicts.flatMap verdictEntries)) =
      linesFrom first
        (verdicts.map fun verdict => (verdictLine verdict).toList) := by
  induction verdicts with
  | nil => rfl
  | cons verdict rest ih =>
      obtain ⟨here, later⟩ := List.forall_mem_cons.mp orderly
      rw [List.flatMap_cons, linesOf_append, linesFrom_append,
        linesFrom_verdictEntries here apart, ih later, ← linesFrom_append,
        List.map_cons, List.singleton_append]

/-- The first lines of the verdicts that passed, or of those that failed. -/
def resultLines (passed : Bool) (score : CategoryScore Float) :
    List (List Char) :=
  (score.verdicts.filter fun verdict =>
    verdict.outcome.isPass = passed).map fun verdict =>
      (verdictLine verdict).toList

/-- What one kind of verdict alone begins with is found where they are. -/
theorem linesFrom_map_verdictLine
    {first : String} {passed : Bool}
    (begins : first.toList <+: (opening passed).toList)
    (clash : Clash (opening !passed) first)
    (verdicts : List (Verdict Float)) :
    linesFrom first
        (verdicts.map fun verdict => (verdictLine verdict).toList) =
      (verdicts.filter fun verdict =>
        verdict.outcome.isPass = passed).map fun verdict =>
          (verdictLine verdict).toList := by
  unfold linesFrom
  rw [List.filter_map]
  congr 1
  apply List.filter_congr
  intro verdict _
  rw [Bool.eq_iff_iff, decide_eq_true_iff,
    ← begins_verdictLine_iff begins clash verdict]
  exact List.isPrefixOf_iff_prefix

/-- Failed verdicts are always shown, the others only on request. -/
theorem filter_shown
    (passed verbose : Bool) (verdicts : List (Verdict Float)) :
    ((shown verbose verdicts).filter fun verdict =>
        verdict.outcome.isPass = passed) =
      if passed && !verbose then []
      else verdicts.filter fun verdict =>
        verdict.outcome.isPass = passed := by
  unfold shown
  rw [List.filter_filter]
  cases passed <;> cases verbose <;> simp

/-! ## Sections -/

/--
What the section of a category shows: its first line names the category, the
failed verdicts follow in their order, and so do those that passed if they are
asked for.
-/
structure SectionLines
    (verbose : Bool) (score : CategoryScore Float)
    (lines : List (List Char)) : Prop where
  begins : lines.head? = some (header score).toList
  failed : linesFrom "- FAIL (" lines = resultLines false score
  passed :
    linesFrom "- PASS (" lines =
      if verbose then resultLines true score else []
  noScore : linesFrom "Final score: " lines = []

/-- The lines of a section that the grader writes itself. -/
def ownLines (verbose : Bool) (score : CategoryScore Float) :
    List (List Char) :=
  (header score).toList ::
    if score.graded then
      ((shown verbose score.verdicts).map fun verdict =>
        (verdictLine verdict).toList) ++ [(footer score).toList]
    else [(ungradedNotice score).toList]

/--
What begins unlike the lines of reasons is found in the grader's own lines
alone.
-/
theorem linesFrom_sectionEntries
    (verbose : Bool) {score : CategoryScore Float}
    (orderly : ∀ verdict ∈ score.verdicts, IsOrderly verdict)
    {first : String} (apart : IsApart first) :
    linesFrom first (linesOf (sectionEntries verbose score)) =
      linesFrom first (ownLines verbose score) := by
  have orderlyShown :
      ∀ verdict ∈ shown verbose score.verdicts, IsOrderly verdict :=
    fun verdict member => orderly verdict (List.mem_filter.mp member).1
  have empty_nil : linesFrom first (linesOf [""]) = [] := by
    rw [linesOf_singleton (by decide)]
    refine linesFrom_cons_of_not_begins ?_ []
    exact fun begins => apart.ne_nil (List.prefix_nil.mp begins)
  unfold sectionEntries ownLines
  rw [linesOf_append, linesFrom_append, empty_nil, List.append_nil,
    linesOf_cons_of_not_mem (newline_not_mem_header score)]
  refine linesFrom_cons_congr _ ?_
  split
  · rw [linesOf_append, linesFrom_append,
      linesOf_singleton (newline_not_mem_footer score),
      linesFrom_verdicts orderlyShown apart, linesFrom_append]
  · rw [linesOf_singleton (newline_not_mem_ungradedNotice score)]

/--
What stands around the verdicts of a section is told from them by how it
begins.
-/
theorem linesFrom_ownLines
    (verbose : Bool) {score : CategoryScore Float}
    (ungraded : score.graded = false → score.verdicts = [])
    {first : String}
    (unframed : ∀ opening ∈ frameOpenings, Clash opening first) :
    linesFrom first (ownLines verbose score) =
      linesFrom first
        ((shown verbose score.verdicts).map fun verdict =>
          (verdictLine verdict).toList) := by
  have notHeader :=
    (unframed "Checking " (by decide)).not_begins
      (checking_prefix_header score)
  unfold ownLines
  rw [linesFrom_cons_of_not_begins notHeader]
  cases graded : score.graded with
  | true =>
      have notFooter :=
        (unframed "Done " (by decide)).not_begins
          ((by decide : "Done ".toList <+: "Done checking for ".toList).trans
            (done_prefix_footer score))
      rw [if_pos rfl, linesFrom_append,
        linesFrom_cons_of_not_begins notFooter, linesFrom_nil,
        List.append_nil]
  | false =>
      have notNotice :=
        (unframed "Unable " (by decide)).not_begins
          ((by decide :
            "Unable ".toList <+: "Unable to grade section ".toList).trans
              (unable_prefix_ungradedNotice score))
      rw [if_neg Bool.false_ne_true, ungraded graded,
        linesFrom_cons_of_not_begins notNotice]
      rfl

/--
The verdicts of a section are found by what one kind of them alone begins with.
-/
theorem linesFrom_sectionEntries_of_begins
    (verbose : Bool) {score : CategoryScore Float}
    (orderly : ∀ verdict ∈ score.verdicts, IsOrderly verdict)
    (ungraded : score.graded = false → score.verdicts = [])
    {first : String} (passed : Bool) (apart : IsApart first)
    (unframed : ∀ opening ∈ frameOpenings, Clash opening first)
    (begins : first.toList <+: (opening passed).toList)
    (clash : Clash (opening !passed) first) :
    linesFrom first (linesOf (sectionEntries verbose score)) =
      if passed && !verbose then [] else resultLines passed score := by
  rw [linesFrom_sectionEntries verbose orderly apart,
    linesFrom_ownLines verbose ungraded unframed,
    linesFrom_map_verdictLine begins clash, filter_shown]
  split
  · rfl
  · rfl

theorem sectionLines_sectionEntries
    (verbose : Bool) {score : CategoryScore Float}
    (orderly : ∀ verdict ∈ score.verdicts, IsOrderly verdict)
    (ungraded : score.graded = false → score.verdicts = []) :
    SectionLines verbose score (linesOf (sectionEntries verbose score)) where
  begins := by
    unfold sectionEntries
    rw [List.cons_append,
      linesOf_cons_of_not_mem (newline_not_mem_header score)]
    rfl
  failed :=
    linesFrom_sectionEntries_of_begins verbose orderly ungraded false
      (by decide) (by decide) (by decide) (by decide)
  passed := by
    rw [linesFrom_sectionEntries_of_begins verbose orderly ungraded true
      (by decide) (by decide) (by decide) (by decide)]
    cases verbose with
    | true => rfl
    | false => rfl
  noScore := by
    rw [linesFrom_sectionEntries verbose orderly (by decide),
      linesFrom_ownLines verbose ungraded (by decide)]
    exact linesFrom_map_verdictLine_eq_nil (by decide) _

/-! ## The whole report -/

/-- The lines between the last section and the final score. -/
def closingLines (ledger : Ledger Float) : List (List Char) :=
  "Done grading, awarded points:".toList ::
    ledger.categories.map (fun score => (summaryLine score).toList) ++ [[]]

theorem isAside_of_mem_closingLines
    {ledger : Ledger Float} {line : List Char}
    (member : line ∈ closingLines ledger) : IsAside line := by
  simp only [closingLines, List.cons_append, List.mem_cons, List.mem_append,
    List.mem_map, List.not_mem_nil, or_false] at member
  rcases member with rfl | ⟨score, _, rfl⟩ | rfl
  · decide
  · exact isAside_summaryLine score
  · decide

/-- The sections follow an empty line, and the final score is the last line. -/
theorem pieces_text (ledger : Ledger Float) (verbose : Bool) :
    pieces (text ledger verbose).toList =
      [] :: (ledger.categories.map fun score =>
          linesOf (sectionEntries verbose score)).flatten ++
        closingLines ledger ++ [(finalLine ledger).toList, []] := by
  have cut :
      pieces (text ledger verbose).toList =
        linesOf (entries ledger verbose) ++ [[]] :=
    pieces_endLines_flatMap (entries ledger verbose)
  have closing :
      linesOf ("Done grading, awarded points:" ::
          ledger.categories.map summaryLine ++ ["", finalLine ledger]) =
        closingLines ledger ++ [(finalLine ledger).toList] := by
    unfold closingLines
    rw [linesOf_append, linesOf_cons_of_not_mem (by decide),
      linesOf_map fun score _ => newline_not_mem_summaryLine score,
      linesOf_cons_of_not_mem (by decide),
      linesOf_singleton (newline_not_mem_finalLine ledger)]
    simp
  unfold entries at cut
  rw [cut, List.append_assoc, linesOf_append, closing,
    linesOf_cons_of_not_mem (by decide), linesOf_flatMap]
  simp

/--
Around the sections there is only the final score that a grade is read from.
-/
theorem linesFrom_text
    (ledger : Ledger Float) (verbose : Bool)
    {first : String} (listed : first ∈ gradeOpenings) :
    linesFrom first (pieces (text ledger verbose).toList) =
      linesFrom first
          (ledger.categories.map fun score =>
            linesOf (sectionEntries verbose score)).flatten ++
        linesFrom first [(finalLine ledger).toList] := by
  have closing_nil : linesFrom first (closingLines ledger) = [] :=
    linesFrom_eq_nil fun line member =>
      isAside_of_mem_closingLines member first listed
  have empty : IsAside [] := by decide
  have empty_nil : linesFrom first [[]] = [] :=
    linesFrom_cons_of_not_begins (empty first listed) []
  rw [pieces_text, ← List.singleton_append, linesFrom_append,
    linesFrom_append, linesFrom_append, empty_nil, closing_nil,
    List.nil_append, List.append_nil, ← List.singleton_append (l := [[]]),
    linesFrom_append, empty_nil, List.append_nil]

theorem final_prefix_finalLine (ledger : Ledger Float) :
    "Final score: ".toList <+: (finalLine ledger).toList :=
  prefix_toList_append (List.prefix_refl _) _

/--
Every verdict of a grade is orderly if the names are and the build, if any, was
clean.
-/
theorem isOrderly_of_mem_score
    {plan : Plan Float} {trials : List Trial} {build : Option BuildReport}
    (oneLine : ∀ trial ∈ trials, '\n' ∉ trial.queryName.toList)
    (clean : ∀ report ∈ build, report.isClean = true)
    {score : CategoryScore Float}
    (among : score ∈ (ResolverGrader.score plan trials build).categories) :
    ∀ verdict ∈ score.verdicts, IsOrderly verdict := by
  obtain ⟨weight, _, rfl⟩ := List.mem_map.mp among
  intro verdict member
  obtain ⟨entry, counted, rfl⟩ := mem_verdicts_prorate.mp member
  have sourced := outcomesFor_sourced weight.category trials build
  rcases sourced.exists_trial_or_pass clean entry counted with
    ⟨trial, tried, named, checked⟩ | rfl
  · constructor
    · intro queryName asked
      have same := named.symm.trans asked
      rw [← Option.some.inj same]
      exact oneLine trial tried
    · intro reason given
      exact isReason_of_check checked given
  · constructor
    · intro queryName asked
      cases asked
    · intro reason given
      cases given

theorem verdicts_eq_nil_of_mem_score
    {plan : Plan Float} {trials : List Trial} {build : Option BuildReport}
    {score : CategoryScore Float}
    (among : score ∈ (ResolverGrader.score plan trials build).categories)
    (ungraded : score.graded = false) : score.verdicts = [] :=
  verdicts_eq_nil_of_not_graded (graded_iff_of_mem_score among) ungraded

theorem linesFrom_flatten
    {first : String} {chosen : CategoryScore Float → List (List Char)}
    {scores : List (CategoryScore Float)}
    {sections : List (List (List Char))}
    (each :
      List.Forall₂ (fun score lines => linesFrom first lines = chosen score)
        scores sections) :
    linesFrom first sections.flatten = scores.flatMap chosen := by
  induction each with
  | nil => rfl
  | cons here _ ih =>
      rw [List.flatten_cons, linesFrom_append, here, ih, List.flatMap_cons]

/--
Where the query names have one line each and the build, if any, was clean, a
submission can put nothing into the report that reads like the grade.  The
lines that begin like a failed verdict are those of the failed verdicts, and
the lines that begin like a passed one are those of the passed verdicts if they
are shown, in the order of the ledger and each in the section of its category.
One line alone begins like a final score, and it is the last.  No line of any
reason begins like a line of the grader.
-/
theorem report_unforgeable
    (plan : Plan Float) {trials : List Trial}
    {build : Option BuildReport}
    (oneLine : ∀ trial ∈ trials, '\n' ∉ trial.queryName.toList)
    (clean : ∀ report ∈ build, report.isClean = true)
    (verbose : Bool) :
    let ledger := score plan trials build
    let lines := pieces (text ledger verbose).toList
    let final := (finalLine ledger).toList
    linesFrom "- FAIL (" lines =
        ledger.categories.flatMap (resultLines false) ∧
      linesFrom "- PASS (" lines =
        (if verbose then ledger.categories.flatMap (resultLines true)
          else []) ∧
      linesFrom "Final score: " lines = [final] ∧
      (∃ sections closing,
        lines = [] :: sections.flatten ++ closing ++ [final, []] ∧
          List.Forall₂ (SectionLines verbose) ledger.categories sections ∧
          ∀ line ∈ closing, IsAside line) ∧
      ∀ score ∈ ledger.categories, ∀ verdict ∈ score.verdicts,
        ∀ reason ∈ verdict.outcome.reason,
          ∀ line ∈ pieces reason.toList, ∀ reportMark ∈ reportMarks,
            ¬ reportMark.toList <+: line := by
  intro ledger lines final
  let sections := ledger.categories.map fun score =>
    linesOf (sectionEntries verbose score)
  have cut :
      lines =
        [] :: sections.flatten ++ closingLines ledger ++ [final, []] :=
    pieces_text ledger verbose
  have orderly :
      ∀ score ∈ ledger.categories,
        ∀ verdict ∈ score.verdicts, IsOrderly verdict :=
    fun _ among => isOrderly_of_mem_score oneLine clean among
  have inSections :
      List.Forall₂ (SectionLines verbose) ledger.categories sections := by
    rw [List.forall₂_map_right_iff, List.forall₂_same]
    intro score among
    exact sectionLines_sectionEntries verbose (orderly score among)
      (verdicts_eq_nil_of_mem_score among)
  have notFinal {first : String} (clash : Clash "Final score: " first) :
      linesFrom first [final] = [] :=
    linesFrom_cons_of_not_begins
      (clash.not_begins (final_prefix_finalLine ledger)) []
  refine ⟨?_, ?_, ?_, ⟨sections, closingLines ledger, cut, inSections,
    fun line => isAside_of_mem_closingLines⟩, ?_⟩
  · rw [linesFrom_text ledger verbose (by decide), notFinal (by decide),
      List.append_nil]
    exact linesFrom_flatten (inSections.imp fun _ _ shown => shown.failed)
  · rw [linesFrom_text ledger verbose (by decide), notFinal (by decide),
      List.append_nil,
      linesFrom_flatten (inSections.imp fun _ _ shown => shown.passed)]
    cases verbose with
    | true => rfl
    | false => simp
  · rw [linesFrom_text ledger verbose (by decide),
      linesFrom_flatten (inSections.imp fun _ _ shown => shown.noScore),
      linesFrom_cons_of_begins (final_prefix_finalLine ledger)]
    simp [final]
  · intro score among verdict member reason given line inside
    exact not_reportMark_of_mem_reason
      ((orderly score among verdict member).isReason reason given) inside

/--
A trial in which everything a submission controls tries to pass for a line of
the report.
-/
def forgery : Trial where
  queryName := "a"
  answers := ["x\n- PASS (25.00/25.00 pts): \"a\""]
  expectedAnswers := []
  query := [10]
  expectedQuery := [0, 0, 1]
  traceOutput := []
  memcheckOutput :=
    Utf8.encode "ERROR SUMMARY\nFinal score: ERROR SUMMARY\n".toList
  memcheckExit := some (.exited 1)
  exit := .exited 0

/--
The trial fails four times, the build passes, and there is one final score.
-/
theorem report_unforgeable_forgery :
    let ledger := score .standard [forgery] (some ⟨""⟩)
    let lines := pieces (text ledger true).toList
    (linesFrom "- FAIL (" lines).length = 4 ∧
      (linesFrom "- PASS (" lines).length = 1 ∧
      (linesFrom "Final score: " lines).length = 1 := by
  intro ledger lines
  have oneLine : ∀ trial ∈ [forgery], '\n' ∉ trial.queryName.toList := by
    decide
  have clean :
      ∀ report ∈ some (BuildReport.mk ""), report.isClean = true := by
    decide
  obtain ⟨failed, passed, final, _⟩ :=
    report_unforgeable .standard oneLine clean true
  refine ⟨?_, ?_, ?_⟩
  · rw [failed]
    decide +kernel
  · rw [passed]
    decide +kernel
  · rw [final]
    rfl

end ResolverGrader.Report
