import ResolverGrader.Proofs.Csv.ReadBack
import ResolverGrader.Proofs.Report.Forgery
import ResolverGrader.Proofs.SummaryTable.ReadBack

/-!
# Three renderings of one grade

A grade is shown three times: the report has a section and a line of points for
each category, the summary table a row, and the table of verdicts a record for
each verdict.  Each decides on its own what there is to show.  The report and
the summary table go by whether a category was graded, the records by its
verdicts alone, and the marks in a section are written one by one.

`renderings_agree` says that whoever reads all three reads the same of every
category.  It rests on one fact about grades: a category was graded exactly if
it has verdicts.
-/

namespace ResolverGrader.Report

open ResolverGrader.Decimal ResolverGrader.Text

/-! ## Accounts -/

/-- What the three renderings show of a category. -/
structure Account where
  label : String
  tests : String
  passed : String
  awarded : String
  most : String
  /-- The records of its verdicts. -/
  records : List (List String)
  /-- The lines of its section in a verbose report. -/
  lines : List (List Char)
  /-- Its line in the list of points. -/
  summary : List Char

/-- The row of a category in the summary table. -/
def Account.row (account : Account) : List String :=
  [account.label, account.tests, account.passed, account.awarded,
    account.most]

/-- The account of a category. -/
def accountOf (score : CategoryScore Float) : Account where
  label := score.category.label
  tests :=
    if score.graded then toString score.verdicts.length else "ungraded"
  passed := toString (SummaryTable.passedCount score)
  awarded := twoPlaces score.awarded
  most := twoPlaces score.maxPoints
  records := score.verdicts.map (Csv.verdictFields score.category)
  lines := linesOf (sectionEntries true score)
  summary := (summaryLine score).toList

theorem lines_accountOf (score : CategoryScore Float) :
    (accountOf score).lines = linesOf (sectionEntries true score) := by
  unfold accountOf
  rfl

theorem summary_accountOf (score : CategoryScore Float) :
    (accountOf score).summary = (summaryLine score).toList := by
  unfold accountOf
  rfl

/-- Whether a record is that of a verdict that passed. -/
def saysPassed (record : List String) : Bool :=
  record[2]? = some "true"

/-- A record and a line that show one failed verdict, with the same points. -/
def SameFailure
    (label : String) (record : List String) (line : List Char) : Prop :=
  ∃ name earned possible reason,
    record = [label, name, "false", earned, possible, reason] ∧
      line =
        ("- FAIL (" ++ earned ++ "/" ++ possible ++ " pts): \"" ++ name ++
          "\"").toList

/--
What is shown of a category in one place is what is shown of it in the others.
-/
structure Account.IsCoherent (account : Account) : Prop where
  tests_eq :
    account.tests =
      if account.records = [] then "ungraded"
      else toString account.records.length
  notice_eq :
    linesFrom "Unable to grade section" account.lines =
      if account.records = [] then
        [("Unable to grade section " ++ account.label ++
          ", no query names apply.").toList]
      else []
  passed_records :
    account.passed = toString (account.records.countP saysPassed)
  passed_lines :
    account.passed = toString (linesFrom "- PASS" account.lines).length
  failures :
    List.Forall₂ (SameFailure account.label)
      (account.records.filter fun record => !saysPassed record)
      (linesFrom "- FAIL" account.lines)
  footer_eq :
    linesFrom "Done checking for" account.lines =
      if account.records = [] then []
      else
        [("Done checking for \"" ++ account.label ++ "\", awarding " ++
          account.awarded ++ "/" ++ account.most ++ " points").toList]
  summary_eq :
    account.summary =
      ("- " ++ account.awarded ++ "/" ++ account.most ++ " " ++
        account.label ++
          if account.tests = "ungraded" then " (ungraded)" else "").toList

/-! ## One category -/

theorem toString_ne_ungraded (number : Nat) :
    toString number ≠ "ungraded" := by
  intro same
  have points := isPointsText_toString number
  rw [same] at points
  exact absurd points (by decide)

theorem saysPassed_verdictFields
    (category : Category) (verdict : Verdict Float) :
    saysPassed (Csv.verdictFields category verdict) =
      verdict.outcome.isPass := by
  unfold saysPassed Csv.verdictFields
  cases verdict.outcome.isPass <;> simp

theorem countP_saysPassed (score : CategoryScore Float) :
    (accountOf score).records.countP saysPassed =
      SummaryTable.passedCount score := by
  unfold accountOf SummaryTable.passedCount
  rw [List.countP_map]
  exact List.countP_congr fun verdict _ => by
    rw [Function.comp_apply, saysPassed_verdictFields]

theorem filter_saysPassed (score : CategoryScore Float) :
    ((accountOf score).records.filter fun record => !saysPassed record) =
      (score.verdicts.filter fun verdict =>
        verdict.outcome.isPass = false).map
          (Csv.verdictFields score.category) := by
  unfold accountOf
  rw [List.filter_map]
  congr 1
  apply List.filter_congr
  intro verdict _
  rw [Function.comp_apply, saysPassed_verdictFields]
  cases verdict.outcome.isPass <;> rfl

theorem sameFailure_verdictFields
    (category : Category) {verdict : Verdict Float}
    (failed : verdict.outcome.isPass = false)
    (named : verdict.queryName ≠ none) :
    SameFailure category.label (Csv.verdictFields category verdict)
      (verdictLine verdict).toList := by
  obtain ⟨name, asked⟩ := Option.ne_none_iff_exists'.mp named
  refine ⟨name, twoPlaces verdict.points,
    twoPlaces verdict.pointsPossible, verdict.outcome.reason.getD "",
    ?_, ?_⟩
  · unfold Csv.verdictFields
    rw [asked, failed]
    rfl
  · unfold verdictLine mark subject fraction
    rw [asked, failed]
    simp only [Bool.false_eq_true, if_false, String.append_assoc]
    rfl

section

variable {score : CategoryScore Float}
variable (orderly : ∀ verdict ∈ score.verdicts, IsOrderly verdict)
variable (graded_iff : score.graded = true ↔ score.verdicts ≠ [])

theorem records_eq_nil_iff :
    (accountOf score).records = [] ↔ score.verdicts = [] :=
  List.map_eq_nil_iff

include graded_iff in
/-- What a graded category shows where an ungraded one shows something else. -/
theorem ite_graded
    {α : Type} (whenGraded whenUngraded : α) :
    (if score.graded then whenGraded else whenUngraded) =
      if (accountOf score).records = [] then whenUngraded
      else whenGraded := by
  by_cases none : score.verdicts = []
  · have ungraded : ¬ score.graded = true :=
      fun graded => graded_iff.mp graded none
    rw [if_neg ungraded, if_pos (records_eq_nil_iff.mpr none)]
  · rw [if_pos (graded_iff.mpr none),
      if_neg fun noRecord => none (records_eq_nil_iff.mp noRecord)]

include orderly in
theorem linesFrom_lines
    {first : String} (apart : IsApart first)
    (clash : ∀ passed : Bool, Clash (opening passed) first)
    (noHeader : Clash "Checking " first) :
    linesFrom first (accountOf score).lines =
      if score.graded then linesFrom first [(footer score).toList]
      else linesFrom first [(ungradedNotice score).toList] := by
  have notHeader := noHeader.not_begins (checking_prefix_header score)
  rw [lines_accountOf, linesFrom_sectionEntries true orderly apart,
    ownLines, linesFrom_cons_of_not_begins notHeader]
  split
  · rw [linesFrom_append, linesFrom_map_verdictLine_eq_nil clash,
      List.nil_append]
  · rfl

include orderly graded_iff in
/--
In a verbose section a mark stands before each verdict that it is for and
nowhere else.
-/
theorem linesFrom_mark (passed : Bool) :
    linesFrom (mark passed) (accountOf score).lines =
      resultLines passed score := by
  have apart : ∀ passed : Bool, IsApart (mark passed) := by decide
  have unframed :
      ∀ passed : Bool, ∀ first ∈ frameOpenings,
        Clash first (mark passed) := by
    decide
  have begins :
      ∀ passed : Bool, (mark passed).toList <+: (opening passed).toList := by
    decide
  have clash :
      ∀ passed : Bool, Clash (opening !passed) (mark passed) := by
    decide
  rw [lines_accountOf,
    linesFrom_sectionEntries_of_begins true orderly
      (verdicts_eq_nil_of_not_graded graded_iff) passed (apart passed)
      (unframed passed) (begins passed) (clash passed),
    Bool.not_true, Bool.and_false, if_neg Bool.false_ne_true]

include orderly graded_iff in
/-- All that is shown of a category agrees. -/
theorem isCoherent_accountOf
    (named :
      ∀ verdict ∈ score.verdicts, verdict.outcome.isPass = false →
        verdict.queryName ≠ none) :
    (accountOf score).IsCoherent where
  tests_eq := by
    have counted :
        (accountOf score).records.length = score.verdicts.length :=
      List.length_map _
    rw [counted]
    exact ite_graded graded_iff _ _
  notice_eq := by
    have noFooter :
        ¬ "Unable to grade section".toList <+: (footer score).toList :=
      (by decide :
        Clash "Done checking for " "Unable to grade section").not_begins
          (done_prefix_footer score)
    have begins :
        "Unable to grade section".toList <+: (ungradedNotice score).toList :=
      .trans (by decide) (unable_prefix_ungradedNotice score)
    rw [linesFrom_lines orderly (by decide) (by decide) (by decide),
      linesFrom_cons_of_not_begins noFooter,
      linesFrom_cons_of_begins begins, ite_graded graded_iff]
    rfl
  passed_records := by
    rw [countP_saysPassed]
    rfl
  passed_lines := by
    have found :
        linesFrom "- PASS" (accountOf score).lines =
          resultLines true score :=
      linesFrom_mark orderly graded_iff true
    rw [found, resultLines, List.length_map, ← List.countP_eq_length_filter]
    simp only [Bool.decide_eq_true]
    rfl
  failures := by
    have found :
        linesFrom "- FAIL" (accountOf score).lines =
          resultLines false score :=
      linesFrom_mark orderly graded_iff false
    rw [found, filter_saysPassed, resultLines, List.forall₂_map_left_iff,
      List.forall₂_map_right_iff, List.forall₂_same]
    intro verdict member
    obtain ⟨among, failed⟩ := List.mem_filter.mp member
    have failed := of_decide_eq_true failed
    exact sameFailure_verdictFields score.category failed
      (named verdict among failed)
  footer_eq := by
    have noNotice :
        ¬ "Done checking for".toList <+: (ungradedNotice score).toList :=
      (by decide :
        Clash "Unable to grade section " "Done checking for").not_begins
          (unable_prefix_ungradedNotice score)
    have begins :
        "Done checking for".toList <+: (footer score).toList :=
      .trans (by decide) (done_prefix_footer score)
    have written :
        footer score =
          "Done checking for \"" ++ score.category.label ++
            "\", awarding " ++ twoPlaces score.awarded ++ "/" ++
              twoPlaces score.maxPoints ++ " points" := by
      unfold footer fraction
      simp only [String.append_assoc]
    rw [linesFrom_lines orderly (by decide) (by decide) (by decide),
      linesFrom_cons_of_not_begins noNotice,
      linesFrom_cons_of_begins begins, ite_graded graded_iff, written]
    rfl
  summary_eq := by
    have flag :
        (if (accountOf score).tests = "ungraded" then " (ungraded)"
          else "") =
          if score.graded then "" else " (ungraded)" := by
      unfold accountOf
      cases score.graded with
      | true => exact if_neg (toString_ne_ungraded _)
      | false => rfl
    rw [flag]
    unfold accountOf summaryLine fraction
    simp only [String.append_assoc]

end

/-! ## A whole grade -/

section

variable (ledger : Ledger Float)

theorem read_summaryTable :
    SummaryTable.read (SummaryTable.text ledger).toList =
      ["Category", "Tests", "Passed", "Awarded", "Max"] ::
        (ledger.categories.map accountOf).map Account.row ++
          [["Total", "", "", twoPlaces ledger.total,
            twoPlaces ledger.maxScore]] := by
  rw [SummaryTable.read_text, List.map_map]
  rfl

theorem read?_csv
    (stray : Csv.Progress → Char → Option Csv.Progress) :
    Csv.read? stray (Csv.text ledger).toList =
      some
        (["category", "qname", "passed", "points", "points_possible",
            "reason"] ::
          (ledger.categories.map accountOf).flatMap Account.records) := by
  rw [Csv.read?_text, List.flatMap_map]
  rfl

theorem finalLine_eq :
    finalLine ledger =
      "Final score: " ++ twoPlaces ledger.total ++ "/" ++
        twoPlaces ledger.maxScore := by
  unfold finalLine fraction
  simp only [String.append_assoc]

theorem pieces_verbose_text :
    pieces (text ledger true).toList =
      [] :: ((ledger.categories.map accountOf).map
          Account.lines).flatten ++
        "Done grading, awarded points:".toList ::
          (ledger.categories.map accountOf).map Account.summary ++
            [[], (finalLine ledger).toList, []] := by
  rw [pieces_text, closingLines]
  simp only [List.map_map, Function.comp_def, lines_accountOf,
    summary_accountOf, List.append_assoc, List.cons_append,
    List.nil_append]

end

/-- With a clean build, a failed verdict is about a query name. -/
theorem named_of_mem_score
    {plan : Plan Float} {trials : List Trial} {build : Option BuildReport}
    (clean : ∀ report ∈ build, report.isClean = true)
    {score : CategoryScore Float}
    (among : score ∈ (ResolverGrader.score plan trials build).categories) :
    ∀ verdict ∈ score.verdicts, verdict.outcome.isPass = false →
      verdict.queryName ≠ none := by
  obtain ⟨weight, _, rfl⟩ := List.mem_map.mp among
  intro verdict member failed
  obtain ⟨entry, counted, rfl⟩ := mem_verdicts_prorate.mp member
  have sourced := outcomesFor_sourced weight.category trials build
  rcases sourced.exists_trial_or_pass clean entry counted with
    ⟨trial, _, named, _⟩ | rfl
  · exact Option.ne_none_iff_exists'.mpr ⟨trial.queryName, named⟩
  · cases failed

/--
Where the query names have one line each and the build, if any, was clean, the
summary table, the table of verdicts and the verbose report tell the same of
every category, in the order of the plan, and of the total.  The table of
verdicts may be read with any treatment of stray characters.
-/
theorem renderings_agree
    (plan : Plan Float) {trials : List Trial}
    {build : Option BuildReport}
    (oneLine : ∀ trial ∈ trials, '\n' ∉ trial.queryName.toList)
    (clean : ∀ report ∈ build, report.isClean = true)
    (stray : Csv.Progress → Char → Option Csv.Progress) :
    let ledger := score plan trials build
    let accounts := ledger.categories.map accountOf
    let total := twoPlaces ledger.total
    let most := twoPlaces ledger.maxScore
    SummaryTable.read (SummaryTable.text ledger).toList =
        ["Category", "Tests", "Passed", "Awarded", "Max"] ::
          accounts.map Account.row ++ [["Total", "", "", total, most]] ∧
      Csv.read? stray (Csv.text ledger).toList =
        some
          (["category", "qname", "passed", "points", "points_possible",
              "reason"] ::
            accounts.flatMap Account.records) ∧
      pieces (text ledger true).toList =
        [] :: (accounts.map Account.lines).flatten ++
          "Done grading, awarded points:".toList ::
            accounts.map Account.summary ++
              [[], ("Final score: " ++ total ++ "/" ++ most).toList, []] ∧
      accounts.map Account.label =
        plan.weights.map (fun weight => weight.category.label) ∧
      ∀ account ∈ accounts, account.IsCoherent := by
  intro ledger accounts total most
  refine ⟨read_summaryTable ledger, read?_csv ledger stray, ?_, ?_, ?_⟩
  · rw [← finalLine_eq]
    exact pieces_verbose_text ledger
  · unfold accounts ledger score
    rw [List.map_map, List.map_map]
    apply List.map_congr_left
    intro weight _
    exact congrArg Category.label (category_prorate weight _)
  · rw [List.forall_mem_map]
    intro score among
    exact isCoherent_accountOf (isOrderly_of_mem_score oneLine clean among)
      (graded_iff_of_mem_score among) (named_of_mem_score clean among)

/--
A trial that fails in four categories, without a build: the other four are
ungraded.
-/
theorem renderings_agree_forgery :
    let accounts :=
      (score .standard [forgery] none).categories.map accountOf
    accounts.map Account.tests =
        ["1", "ungraded", "1", "1", "ungraded", "ungraded", "1",
          "ungraded"] ∧
      (accounts.map fun account =>
          (linesFrom "- FAIL" account.lines).length) =
        [1, 0, 1, 1, 0, 0, 1, 0] ∧
      (accounts.map fun account =>
          (linesFrom "Unable to grade section" account.lines).length) =
        [0, 1, 0, 0, 1, 1, 0, 1] := by
  intro accounts
  have oneLine : ∀ trial ∈ [forgery], '\n' ∉ trial.queryName.toList := by
    decide
  have clean :
      ∀ report ∈ (none : Option BuildReport), report.isClean = true := by
    decide
  obtain ⟨_, _, _, _, coherent⟩ :=
    renderings_agree .standard oneLine clean fun _ _ => none
  have failed :
      ∀ account ∈ accounts,
        (linesFrom "- FAIL" account.lines).length =
          (account.records.filter fun record => !saysPassed record).length :=
    fun account among => (coherent account among).failures.length_eq.symm
  have noticed :
      ∀ account ∈ accounts,
        (linesFrom "Unable to grade section" account.lines).length =
          if account.records = [] then 1 else 0 := by
    intro account among
    rw [(coherent account among).notice_eq]
    split <;> rfl
  refine ⟨by decide +kernel, ?_, ?_⟩
  · rw [List.map_congr_left failed]
    decide +kernel
  · rw [List.map_congr_left noticed]
    decide +kernel

end ResolverGrader.Report
