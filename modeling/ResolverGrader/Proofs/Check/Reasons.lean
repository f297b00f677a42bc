import ResolverGrader.Check
import ResolverGrader.Proofs.Text.Blank
import ResolverGrader.Proofs.Text.OneLine

/-!
# What reasons look like

A reason for a failure may show what the submission printed, sent or made the
memory checker say.  It shows all of that quoted, in hexadecimal or indented,
so every line of every reason still begins with one of a few texts that the
checks themselves write.

`isReason_of_check` says so for every category and every trial.
-/

namespace ResolverGrader

open ResolverGrader.Text

/-- What the lines of reasons begin with. -/
def reasonOpenings : List String :=
  ["Valgrind ", "    ", "The ", "Expected", "Actual", "XOR: ", "socket() ",
    "Exitcode ", "(There "]

/-- A text on one line that begins as the lines of reasons do. -/
def IsReasonLine (text : String) : Prop :=
  '\n' ∉ text.toList ∧
    ∃ opening ∈ reasonOpenings, opening.toList <+: text.toList

instance (text : String) : Decidable (IsReasonLine text) :=
  inferInstanceAs (Decidable (_ ∧ _))

/-- A text of which every line begins as the lines of reasons do. -/
def IsReason (reason : String) : Prop :=
  ∀ line ∈ pieces reason.toList,
    ∃ opening ∈ reasonOpenings, opening.toList <+: line

/-- What stays on the line may follow. -/
theorem IsReasonLine.append
    {text rest : String} (reason : IsReasonLine text)
    (oneLine : '\n' ∉ rest.toList) : IsReasonLine (text ++ rest) := by
  obtain ⟨alsoOneLine, opening, listed, begins⟩ := reason
  refine ⟨?_, opening, listed, prefix_toList_append begins rest⟩
  rw [not_mem_toList_append]
  exact ⟨alsoOneLine, oneLine⟩

theorem IsReasonLine.isReason
    {text : String} (reason : IsReasonLine text) : IsReason text := by
  intro line member
  rw [pieces_of_not_mem reason.1, List.mem_singleton] at member
  exact member ▸ reason.2

theorem isReason_joinLines
    {texts : List String} (some_text : texts ≠ [])
    (each : ∀ text ∈ texts, IsReasonLine text) :
    IsReason (joinLines texts) := by
  intro line member
  rw [pieces_joinLines some_text] at member
  obtain ⟨text, among, inside⟩ := List.mem_flatMap.mp member
  exact (each text among).isReason line inside

/-! ## Sets of answers -/

/-- However the answers look, the text of their set is one line. -/
theorem Answer.newline_not_mem_setText (answers : List String) :
    '\n' ∉ (setText answers).toList := by
  unfold setText
  simp only [not_mem_toList_append, String.toList_intercalate]
  refine ⟨⟨by decide, ?_⟩, by decide⟩
  refine not_mem_intercalate (by decide) ?_
  simp only [List.forall_mem_map, String.toList_ofList]
  intro answer _
  exact Quoted.newline_not_mem_quote answer.toList

theorem Answer.isReason_describeMismatch
    {headline : String} (line : IsReasonLine headline)
    (actual expected : List String) :
    IsReason (describeMismatch headline actual expected) := by
  have counted (number : Nat) : '\n' ∉ (toString number).toList :=
    (isLegible_toString_nat number).newline_not_mem
  refine isReason_joinLines (by simp) ?_
  simp only [List.forall_mem_cons]
  refine ⟨line, ?_, ?_, ?_, List.forall_mem_nil _⟩
  · exact IsReasonLine.append (by decide) (newline_not_mem_setText expected)
  · exact IsReasonLine.append (by decide) (newline_not_mem_setText actual)
  · refine IsReasonLine.append ?_ (by decide)
    refine IsReasonLine.append ?_ (counted _)
    refine IsReasonLine.append ?_ (by decide)
    exact IsReasonLine.append (by decide) (counted _)

/-! ## Checks -/

namespace Check

/-- What is quoted of the memory checker's output is quoted line by line. -/
theorem newline_not_mem_of_mem_memcheckSummary
    {output : Octets} {quoted : String}
    (member : quoted ∈ memcheckSummary output) :
    '\n' ∉ quoted.toList := by
  obtain ⟨line, kept, rfl⟩ := List.mem_map.mp member
  have whole :=
    newline_not_mem_of_mem_lines (List.mem_filter.mp kept).1
  rw [String.toList_ofList]
  exact fun inside => whole (trim_subset line inside)

/-- A quoted line is indented, so it cannot begin as it pleases. -/
theorem isReason_quoting
    {headline : String} (line : IsReasonLine headline)
    (output : Octets) :
    IsReason (headline ++
      String.join ((memcheckSummary output).map ("\n    " ++ ·))) := by
  have indented :
      (memcheckSummary output).map ("\n    " ++ ·) =
        ((memcheckSummary output).map ("    " ++ ·)).map ("\n" ++ ·) := by
    rw [List.map_map]
    apply List.map_congr_left
    intro quoted _
    show "\n    " ++ quoted = "\n" ++ ("    " ++ quoted)
    rw [← String.append_assoc]
    rfl
  rw [indented, append_join_newline]
  refine isReason_joinLines (by simp) ?_
  rw [List.forall_mem_cons, List.forall_mem_map]
  refine ⟨line, ?_⟩
  intro quoted member
  exact IsReasonLine.append (by decide)
    (newline_not_mem_of_mem_memcheckSummary member)

theorem isReason_memoryLeaks
    {trial : Trial} {reason : String}
    (given : (memoryLeaks trial).reason = some reason) :
    IsReason reason := by
  unfold memoryLeaks at given
  split at given
  · obtain rfl := Option.some.inj given
    exact IsReasonLine.isReason (by decide)
  · next exit _ =>
    split at given
    · cases given
    · obtain rfl := Option.some.inj given
      refine isReason_quoting ?_ trial.memcheckOutput
      refine IsReasonLine.append ?_ (by decide)
      exact IsReasonLine.append (by decide)
        exit.isPrintable_text.newline_not_mem

theorem isReason_wellFormedQuery
    {trial : Trial} {reason : String}
    (given : (wellFormedQuery trial).reason = some reason) :
    IsReason reason := by
  have digits (octets : Octets) : '\n' ∉ octets.hex.toList := by
    unfold Octets.hex
    rw [String.toList_ofList]
    exact (Octets.isPrintable_hexDigits octets).newline_not_mem
  unfold wellFormedQuery QueryDiff.drawing? at given
  split at given
  · cases given
  · next drawing drawn =>
    split at drawn
    · cases drawn
    · obtain rfl := Option.some.inj given
      obtain rfl := Option.some.inj drawn
      refine isReason_joinLines (by simp) ?_
      simp only [List.forall_mem_cons]
      refine ⟨by decide, ?_, ?_, ?_, List.forall_mem_nil _⟩
      · exact IsReasonLine.append (by decide) (digits _)
      · exact IsReasonLine.append (by decide) (digits _)
      · unfold QueryDiff.exclusiveOrRow
        rw [← String.append_assoc]
        exact IsReasonLine.append (by decide) (digits _)

theorem isReason_sendAndReceive
    {trial : Trial} {reason : String}
    (given : (sendAndReceive trial).reason = some reason) :
    IsReason reason := by
  unfold sendAndReceive at given
  split at given
  · obtain rfl := Option.some.inj given
    exact IsReasonLine.isReason (by decide)
  · split at given
    · cases given
    · obtain rfl := Option.some.inj given
      exact IsReasonLine.isReason (by decide)

theorem isReason_answersMatch
    {headline : String} (line : IsReasonLine headline)
    {trial : Trial} {reason : String}
    (given : (answersMatch headline trial).reason = some reason) :
    IsReason reason := by
  unfold answersMatch at given
  split at given
  · obtain rfl := Option.some.inj given
    apply IsReasonLine.isReason
    refine IsReasonLine.append ?_ (by decide)
    exact IsReasonLine.append (by decide)
      trial.exit.isPrintable_text.newline_not_mem
  · split at given
    · cases given
    · obtain rfl := Option.some.inj given
      exact Answer.isReason_describeMismatch line _ _

/--
A check that passes over some trials and compares answers for the others.
-/
theorem isReason_answersMatch_unless
    {headline : String} (line : IsReasonLine headline)
    {elsewhere : Prop} [Decidable elsewhere]
    {trial : Trial} {reason : String}
    (given :
      (if elsewhere then Outcome.notApplicable
        else answersMatch headline trial).reason = some reason) :
    IsReason reason := by
  split at given
  · cases given
  · exact isReason_answersMatch line given

end Check

/--
Every line of every reason begins with a text that the checks themselves write.
-/
theorem isReason_of_check
    {category : Category} {trial : Trial} {outcome : Outcome}
    (checked : check category trial = some outcome)
    {reason : String} (given : outcome.reason = some reason) :
    IsReason reason := by
  cases category with
  | memoryLeaks =>
      obtain rfl := Option.some.inj checked
      exact Check.isReason_memoryLeaks given
  | compilerWarnings => cases checked
  | wellFormedQuery =>
      obtain rfl := Option.some.inj checked
      exact Check.isReason_wellFormedQuery given
  | sendAndReceive =>
      obtain rfl := Option.some.inj checked
      exact Check.isReason_sendAndReceive given
  | findsAnswer | handlesCname | handlesNxdomain | handlesRoot =>
      obtain rfl := Option.some.inj checked
      exact Check.isReason_answersMatch_unless (by decide) given

end ResolverGrader
