import Mathlib.Logic.Relation
import ResolverGrader.Proofs.Answer.Numeric
import ResolverGrader.Proofs.Check.AnswerGrading
import ResolverGrader.Proofs.Text.LetterCase

/-!
# How answers are printed

Two outputs that differ in the order of their lines, in how often a line
occurs, in blank lines, in the case of ASCII letters or in the final dot of a
name give the same set of normal forms.  So they are graded alike by every
category that compares answers, however many such differences there are.

A final dot makes a difference on a blank line only: there it is the first
character to be seen.  `printing_irrelevant` leaves such lines out, and
`dotted_blank_line_counts` shows that it has to.
-/

namespace ResolverGrader

open ResolverGrader.Text

namespace Answer

/-! ## Outputs that are put together -/

theorem ofOutput_perm (stdout : Octets) :
    (ofOutput stdout).Perm
      (((pieces (Utf8.decode stdout)).filter
        fun line => trim line ≠ []).map String.ofList) :=
  sorted_perm _

/-- The answers of two outputs with a line feed between them are merged. -/
theorem ofOutput_append_newline (left right : Octets) :
    ofOutput (left ++ 0x0a :: right) =
      (ofOutput left).merge (ofOutput right)
        fun first second => first ≤ second := by
  have together :
      (ofOutput (left ++ 0x0a :: right)).Perm
        (ofOutput left ++ ofOutput right) := by
    refine (ofOutput_perm _).trans ?_
    rw [Utf8.decode_append_newline, pieces_append_newline,
      List.filter_append, List.map_append]
    exact ((ofOutput_perm left).append (ofOutput_perm right)).symm
  have ordered :
      ((ofOutput left).merge (ofOutput right)
        fun first second => first ≤ second).Pairwise (· ≤ ·) := by
    have decided (stdout : Octets) :
        (ofOutput stdout).Pairwise
          fun first second => decide (first ≤ second) = true :=
      (pairwise_sorted _).imp decide_eq_true
    have merged := List.pairwise_merge
      (fun _ _ _ below above => by
        simp only [decide_eq_true_eq] at below above ⊢
        exact String.le_trans below above)
      (fun first second => by simpa using String.le_total first second)
      _ _ (decided left) (decided right)
    exact merged.imp of_decide_eq_true
  apply List.Perm.eq_of_pairwise
    (fun _ _ _ _ below above => String.le_antisymm below above)
    (pairwise_sorted _) ordered
  exact together.trans (List.merge_perm_append _).symm

/-! ## Lines -/

/-- The normal form of a line, if there is something to see on it. -/
def lineForms (line : Octets) : Set String :=
  {form | (∃ character ∈ Utf8.decode line, isBlank character = false) ∧
    form = String.ofList (normalizeChars (Utf8.decode line))}

/-- What an output comes to is what its lines come to. -/
theorem mem_normalForms_printedLines
    {form : String} {stdout : Octets} :
    form ∈ normalForms (printedLines stdout) ↔
      ∃ line ∈ stdout.lines, form ∈ lineForms line := by
  unfold normalForms printedLines lineForms
  rw [Utf8.pieces_decode]
  constructor
  · rintro ⟨answer, ⟨member, visible⟩, rfl⟩
    obtain ⟨line, among, decoded⟩ := List.mem_map.mp member
    refine ⟨line, among, decoded ▸ visible, ?_⟩
    rw [decoded]
    rfl
  · rintro ⟨line, among, visible, rfl⟩
    refine ⟨String.ofList (Utf8.decode line), ⟨?_, ?_⟩, ?_⟩
    · rw [String.toList_ofList]
      exact List.mem_map_of_mem among
    · rwa [String.toList_ofList]
    · rw [normalize, String.toList_ofList]

theorem lineForms_of_blank
    {line : Octets}
    (blank : ∀ character ∈ Utf8.decode line, isBlank character = true) :
    lineForms line = ∅ := by
  apply Set.eq_empty_of_forall_notMem
  rintro form ⟨⟨character, member, visible⟩, _⟩
  rw [blank character member] at visible
  exact Bool.true_eq_false_eq_False visible

/-- A final dot is no part of the normal form of a name. -/
theorem normalizeChars_append_dot
    {answer : List Char}
    (undotted : ∀ last ∈ answer.getLast?,
      last ≠ '.' ∧ isDecimal last = false) :
    normalizeChars (answer ++ ['.']) = normalizeChars answer := by
  unfold normalizeChars
  rw [lowercase_append_dot]
  have ended : endDot (lowercase answer ++ ['.']) =
      lowercase answer ++ ['.'] := by
    simp [endDot]
  rw [ended]
  cases ending : (lowercase answer).getLast? with
  | none => simp [endDot, List.getLast?_eq_none_iff.mp ending]
  | some last =>
      have other : ¬ (last = '.' ∨ isDecimal last = true) := by
        intro final
        have dotted : isDottedDigit last = true := by
          simpa [isDottedDigit] using final
        have visible := toNat_of_isDottedDigit dotted
        have source := getLast?_of_getLast?_lowercaseAfter
          (by omega) (by omega) ending
        have outside := undotted last source
        simp [outside] at final
      simp [endDot, ending, other]

theorem lineForms_append_dot
    {line : Octets}
    (visible : ∃ character ∈ Utf8.decode line, isBlank character = false)
    (undotted : ∀ last ∈ (Utf8.decode line).getLast?,
      last ≠ '.' ∧ isDecimal last = false) :
    lineForms (line ++ [0x2e]) = lineForms line := by
  have appended : Utf8.decode (line ++ [0x2e]) =
      Utf8.decode line ++ ['.'] :=
    Utf8.decode_append_of_small line (by decide)
  have alsoVisible :
      ∃ character ∈ Utf8.decode line ++ ['.'],
        isBlank character = false := by
    obtain ⟨character, member, here⟩ := visible
    exact ⟨character, List.mem_append_left _ member, here⟩
  unfold lineForms
  rw [appended, normalizeChars_append_dot undotted]
  ext form
  exact and_congr_left fun _ => iff_of_true alsoVisible visible

theorem lineForms_congr
    {line other : Octets} (same : Octets.SameLetters line other) :
    lineForms line = lineForms other := by
  have alike := Utf8.sameLetters_decode same
  unfold lineForms normalizeChars
  rw [alike.lowercase_congr]
  ext form
  exact and_congr_left fun _ => alike.exists_blank_iff false

/-! ## Reprinting -/

/-- One difference in how answers are printed. -/
inductive Reprints (stdout other : Octets) : Prop where
  /-- The lines stand in another order. -/
  | reordered
      (order : (stdout.lines).Perm (other.lines))
  /-- A line stands in one more place. -/
  | repeated
      (before after : List Octets) (line : Octets)
      (cut : stdout.lines = before ++ after)
      (again : other.lines = before ++ line :: after)
      (member : line ∈ before ++ after)
  /-- There is one more line, of white space only. -/
  | spaced
      (before after : List Octets) (line : Octets)
      (cut : stdout.lines = before ++ after)
      (inserted : other.lines = before ++ line :: after)
      (blank : ∀ character ∈ Utf8.decode line, isBlank character = true)
  /-- ASCII letters are of another case. -/
  | recased (same : Octets.SameLetters stdout other)
  /--
  A line that is not blank and ends in neither a dot nor an ASCII digit has a
  dot at its end.
  -/
  | dotted
      (before after : List Octets) (line : Octets)
      (cut : stdout.lines = before ++ line :: after)
      (appended :
        other.lines = before ++ (line ++ [0x2e]) :: after)
      (visible :
        ∃ character ∈ Utf8.decode line, isBlank character = false)
      (undotted : ∀ last ∈ (Utf8.decode line).getLast?,
        last ≠ '.' ∧ isDecimal last = false)

theorem exists_mem_append_cons
    {holds : Octets → Prop} {before after : List Octets} {line : Octets} :
    (∃ among ∈ before ++ line :: after, holds among) ↔
      holds line ∨ ∃ among ∈ before ++ after, holds among := by
  simp only [List.perm_middle.mem_iff, List.exists_mem_cons_iff]

/--
One difference in how answers are printed makes none in what they come to.
-/
theorem Reprints.normalForms_eq
    {stdout other : Octets} (reprints : Reprints stdout other) :
    normalForms (printedLines stdout) = normalForms (printedLines other) := by
  ext form
  rw [mem_normalForms_printedLines, mem_normalForms_printedLines]
  cases reprints with
  | reordered order =>
      exact exists_congr fun line => and_congr_left fun _ => order.mem_iff
  | repeated _ _ _ cut again member =>
      rw [cut, again, exists_mem_append_cons]
      exact (or_iff_right_of_imp fun here => ⟨_, member, here⟩).symm
  | spaced _ _ _ cut inserted blank =>
      rw [cut, inserted, exists_mem_append_cons, lineForms_of_blank blank]
      exact (or_iff_right (Set.notMem_empty form)).symm
  | recased same =>
      constructor
      · rintro ⟨line, among, here⟩
        obtain ⟨twin, alsoAmong, alike⟩ := same.exists_line among
        exact ⟨twin, alsoAmong, lineForms_congr alike ▸ here⟩
      · rintro ⟨line, among, here⟩
        have back : Octets.SameLetters other stdout := Eq.symm same
        obtain ⟨twin, alsoAmong, alike⟩ := back.exists_line among
        exact ⟨twin, alsoAmong, lineForms_congr alike ▸ here⟩
  | dotted _ _ _ cut appended visible undotted =>
      rw [cut, appended, exists_mem_append_cons, exists_mem_append_cons,
        lineForms_append_dot visible undotted]

/-- Outputs that any number of such differences lead from one to the other. -/
def PrintsAlike : Octets → Octets → Prop :=
  Relation.EqvGen Reprints

theorem PrintsAlike.normalForms_eq
    {stdout other : Octets} (alike : PrintsAlike stdout other) :
    normalForms (printedLines stdout) = normalForms (printedLines other) := by
  induction alike with
  | rel _ _ reprints => exact reprints.normalForms_eq
  | refl _ => rfl
  | symm _ _ _ ih => exact ih.symm
  | trans _ _ _ _ _ first second => exact first.trans second

end Answer

open Answer

/-- Whether a check applies, and whether the trial passes it. -/
def Outcome.verdict (outcome : Outcome) : Bool × Option Bool :=
  (outcome.applies, outcome.passed)

/-- Only the set of the printed answers has a part in the verdict. -/
theorem verdict_congr
    {category : Category} (compares : category.comparesAnswers = true)
    {trial other : Trial}
    (sameName : trial.queryName = other.queryName)
    (sameExpected : trial.expectedAnswers = other.expectedAnswers)
    (sameExit : trial.exit = other.exit)
    (sameAnswers :
      ∀ answer, answer ∈ trial.answers ↔ answer ∈ other.answers) :
    (check category trial).map Outcome.verdict =
      (check category other).map Outcome.verdict := by
  by_cases about : category.IsAbout trial.queryName trial.expectedAnswers
  · obtain ⟨headline, checked⟩ := check_eq_answersMatch compares trial about
    rw [sameName, sameExpected] at about
    obtain ⟨otherHeadline, otherChecked⟩ :=
      check_eq_answersMatch compares other about
    have decided := Check.answersMatch_decided headline trial
    have otherDecided := Check.answersMatch_decided otherHeadline other
    have sameResult :
        (Check.answersMatch headline trial).isPass =
          (Check.answersMatch otherHeadline other).isPass := by
      rw [Bool.eq_iff_iff, Check.isPass_answersMatch_iff,
        Check.isPass_answersMatch_iff, sameExit, sameExpected]
      simp only [sameAnswers]
    rw [checked, otherChecked, Option.map_some, Option.map_some,
      Outcome.verdict, Outcome.verdict, decided.applies,
      otherDecided.applies, Outcome.passed_eq_some_isPass decided,
      Outcome.passed_eq_some_isPass otherDecided, sameResult]
  · rw [check_eq_notApplicable compares trial about]
    rw [sameName, sameExpected] at about
    rw [check_eq_notApplicable compares other about]

/--
How answers are printed does not matter.  The answers of two outputs, one after
the other with a line feed in between, are the answers of both, merged in order
and with all duplicates.  Outputs that differ in the order, the repetition, the
white space, the letter case and the final dots of their lines are graded
alike: each category that compares answers applies to both trials or to
neither, and both pass it or both fail it.
-/
theorem printing_irrelevant :
    (∀ left right : Octets,
      ofOutput (left ++ 0x0a :: right) =
        (ofOutput left).merge (ofOutput right)
          fun first second => first ≤ second) ∧
      ∀ {stdout other : Octets}, PrintsAlike stdout other →
        ∀ (queryName : String) (traced checked : Run)
          (expectedQuery : Octets) (expectedAnswers : List String)
          (category : Category), category.comparesAnswers = true →
            let trial (printed : Octets) :=
              Trial.ofRuns queryName { traced with stdout := printed }
                checked expectedQuery expectedAnswers
            (check category (trial stdout)).map Outcome.verdict =
              (check category (trial other)).map Outcome.verdict := by
  refine ⟨ofOutput_append_newline, ?_⟩
  intro stdout other alike queryName traced checked expectedQuery
    expectedAnswers category compares trial
  refine verdict_congr compares rfl rfl rfl fun answer => ?_
  rw [mem_answers_ofRuns, mem_answers_ofRuns, alike.normalForms_eq]

/-- A run that succeeded and printed nothing. -/
def quietRun : Run where
  request := []
  stdout := []
  traceOutput := none
  memcheckOutput := none
  memcheckExit := none
  exit := .exited 0

/--
A character that is cut short counts as the last one of its line, and takes the
dot.
-/
theorem printing_irrelevant_cut_short :
    let printed : Octets := [0x42, 0xc3, 0x0a, 0x31]
    let reprinted : Octets :=
      [0x31, 0x0a, 0x20, 0x0a, 0x62, 0xc3, 0x2e, 0x0a, 0x31]
    let trial (stdout : Octets) :=
      Trial.ofRuns "a" { quietRun with stdout } quietRun [] ["b\ufffd."]
    PrintsAlike printed reprinted ∧
      (check .handlesCname (trial printed)).map Outcome.verdict =
        (check .handlesCname (trial reprinted)).map Outcome.verdict := by
  intro printed reprinted trial
  have recased : Reprints printed [0x62, 0xc3, 0x0a, 0x31] := .recased rfl
  have cutShort : Utf8.decode [0x62, 0xc3] = ['b', '\ufffd'] := rfl
  have dotted :
      Reprints [0x62, 0xc3, 0x0a, 0x31] [0x62, 0xc3, 0x2e, 0x0a, 0x31] := by
    refine .dotted [] [[0x31]] [0x62, 0xc3] rfl rfl ?_ ?_
    · rw [cutShort]
      exact ⟨'b', List.mem_cons_self, by decide⟩
    · rw [cutShort]
      rintro _ ⟨⟩
      exact ⟨by decide, by decide⟩
  have reordered :
      Reprints [0x62, 0xc3, 0x2e, 0x0a, 0x31]
        [0x31, 0x0a, 0x62, 0xc3, 0x2e] :=
    .reordered (by decide)
  have repeated :
      Reprints [0x31, 0x0a, 0x62, 0xc3, 0x2e]
        [0x31, 0x0a, 0x62, 0xc3, 0x2e, 0x0a, 0x31] :=
    .repeated [[0x31], [0x62, 0xc3, 0x2e]] [] [0x31] (by decide)
      (by decide) (by decide)
  have space : Utf8.decode [0x20] = [' '] := rfl
  have spaced :
      Reprints [0x31, 0x0a, 0x62, 0xc3, 0x2e, 0x0a, 0x31] reprinted := by
    refine .spaced [[0x31]] [[0x62, 0xc3, 0x2e], [0x31]] [0x20] rfl rfl ?_
    rw [space]
    exact List.forall_mem_singleton.mpr (by decide)
  have alike : PrintsAlike printed reprinted :=
    .trans _ _ _ (.rel _ _ recased) <|
      .trans _ _ _ (.rel _ _ dotted) <|
        .trans _ _ _ (.rel _ _ reordered) <|
          .trans _ _ _ (.rel _ _ repeated) (.rel _ _ spaced)
  exact ⟨alike,
    printing_irrelevant.2 alike "a" quietRun quietRun [] ["b\ufffd."]
      .handlesCname rfl⟩

/-- A dot behind a space is an answer, although the space alone was none. -/
theorem dotted_blank_line_counts :
    ¬ ∀ (stdout other : Octets) (before after : List Octets)
        (line : Octets) (last : Char),
      stdout.lines = before ++ line :: after →
        other.lines = before ++ (line ++ [0x2e]) :: after →
          (Utf8.decode line).getLast? = some last →
            last ≠ '.' → isDecimal last = false →
              ∀ (queryName : String) (traced checked : Run)
                (expectedQuery : Octets) (expectedAnswers : List String)
                (category : Category), category.comparesAnswers = true →
                let trial (printed : Octets) :=
                  Trial.ofRuns queryName { traced with stdout := printed }
                    checked expectedQuery expectedAnswers
                (check category (trial stdout)).map Outcome.verdict =
                  (check category (trial other)).map Outcome.verdict := by
  intro claimed
  have same := claimed [0x20] [0x20, 0x2e] [] [] [0x20] ' '
    (by decide) (by decide) (by decide) (by decide) (by decide)
    "a" quietRun quietRun [] [] .handlesNxdomain rfl
  revert same
  decide +kernel

end ResolverGrader
