import ResolverGrader.Proofs.Answer.Differences
import ResolverGrader.Proofs.Check.Reasons
import ResolverGrader.Proofs.Text.Quoted

/-!
# The description of a mismatch

A mismatch is described on four lines: the headline, the expected set, the
printed set and the sizes of the two differences.  However the answers look,
even like quotations with commas between them, a set can be recovered from its
line: what stands between two bare quotes is one answer, and a bare brace ends
the set.

`mismatch_unambiguous` says what the four lines are, and that a description
determines both sets and is determined by them.
-/

namespace ResolverGrader.Answer

open ResolverGrader.Text

/-! ## The text of a set -/

/--
Quoted answers with commas between them, up to the brace that ends the set.
-/
def enclosed (answers : List String) : List Char :=
  List.intercalate [',', ' ']
    (answers.map fun answer => Quoted.quote answer.toList) ++ ['\x7d']

/--
What stands behind a quoted answer: the end of the set, or a comma and the
other answers.
-/
def continued : List String → List Char
  | [] => ['\x7d']
  | next :: rest => ',' :: ' ' :: enclosed (next :: rest)

theorem enclosed_cons (answer : String) (rest : List String) :
    enclosed (answer :: rest) =
      Quoted.quote answer.toList ++ continued rest := by
  cases rest with
  | nil => simp [enclosed, continued]
  | cons next more =>
      have others :
          (next :: more).map (fun answer => Quoted.quote answer.toList) ≠
            [] := List.cons_ne_nil _ _
      rw [enclosed, List.map_cons,
        List.intercalate_cons_of_ne_nil others, continued, enclosed]
      simp

theorem head?_enclosed_cons (answer : String) (rest : List String) :
    (enclosed (answer :: rest)).head? = some '"' := by
  rw [enclosed_cons]
  rfl

/-- Different lists of answers are enclosed in different texts. -/
theorem enclosed_injective : Function.Injective enclosed := by
  intro left right same
  induction left generalizing right with
  | nil =>
      cases right with
      | nil => rfl
      | cons answer rest =>
          have first := congrArg List.head? same
          rw [head?_enclosed_cons] at first
          cases first
  | cons answer rest ih =>
      cases right with
      | nil =>
          have first := congrArg List.head? same
          rw [head?_enclosed_cons] at first
          cases first
      | cons other others =>
          rw [enclosed_cons, enclosed_cons] at same
          obtain ⟨sameFirst, sameRest⟩ := Quoted.quote_append_inj same
          have here : answer = other := String.toList_injective sameFirst
          subst here
          cases rest with
          | nil =>
              cases others with
              | nil => rfl
              | cons next more => cases sameRest
          | cons next more =>
              cases others with
              | nil => cases sameRest
              | cons third further =>
                  have later : next :: more = third :: further :=
                    ih (List.cons.inj (List.cons.inj sameRest).2).2
                  rw [later]

theorem toList_setText (answers : List String) :
    (setText answers).toList = '\x7b' :: enclosed (distinct answers) := by
  unfold setText enclosed
  rw [String.toList_append, String.toList_append, String.toList_intercalate,
    List.map_map]
  simp [Function.comp_def]

/-- The distinct entries are the same where the entries are. -/
theorem distinct_eq_iff (answers others : List String) :
    distinct answers = distinct others ↔
      ∀ answer, answer ∈ answers ↔ answer ∈ others := by
  constructor
  · intro same answer
    rw [← mem_distinct, same, mem_distinct]
  · intro same
    refine (pairwise_distinct answers).eq_of_mem_iff
      (pairwise_distinct others) ?_
    intro answer
    rw [mem_distinct, mem_distinct]
    exact same answer

/-- A set can be recovered from its text. -/
theorem setText_eq_iff (answers others : List String) :
    setText answers = setText others ↔
      ∀ answer, answer ∈ answers ↔ answer ∈ others := by
  rw [← distinct_eq_iff, ← String.toList_inj, toList_setText,
    toList_setText, List.cons_inj_right, enclosed_injective.eq_iff]

/-! ## The four lines -/

/-- The line that counts the two differences of the sets. -/
def countLine (actual expected : List String) : String :=
  "(There are " ++
    toString (actual.toFinset \ expected.toFinset).card ++
    " extra and " ++
    toString (expected.toFinset \ actual.toFinset).card ++
    " missing answers)"

theorem describeMismatch_eq
    (headline : String) (actual expected : List String) :
    describeMismatch headline actual expected =
      joinLines [headline, "Expected:       " ++ setText expected,
        "Actual:         " ++ setText actual,
        countLine actual expected] := by
  unfold countLine
  rw [← (isDifference_difference actual expected).length_eq,
    ← (isDifference_difference expected actual).length_eq]
  rfl

theorem newline_not_mem_countLine (actual expected : List String) :
    '\n' ∉ (countLine actual expected).toList := by
  have counted (number : Nat) : '\n' ∉ (toString number).toList :=
    (isLegible_toString_nat number).newline_not_mem
  unfold countLine
  simp only [not_mem_toList_append]
  exact ⟨⟨⟨⟨by decide, counted _⟩, by decide⟩, counted _⟩, by decide⟩

theorem pieces_describeMismatch
    {headline : String} (oneLine : '\n' ∉ headline.toList)
    (actual expected : List String) :
    pieces (describeMismatch headline actual expected).toList =
      [headline.toList,
        ("Expected:       " ++ setText expected).toList,
        ("Actual:         " ++ setText actual).toList,
        (countLine actual expected).toList] := by
  have shown {label : String} (whole : '\n' ∉ label.toList)
      (answers : List String) :
      '\n' ∉ (label ++ setText answers).toList :=
    not_mem_toList_append.mpr ⟨whole, newline_not_mem_setText answers⟩
  rw [describeMismatch_eq, pieces_joinLines (List.cons_ne_nil _ _),
    ← List.flatMap_map, flatMap_split_of_not_mem]
  · rfl
  · simp only [List.map_cons, List.map_nil, List.forall_mem_cons]
    exact ⟨oneLine, shown (by decide) expected, shown (by decide) actual,
      newline_not_mem_countLine actual expected, List.forall_mem_nil _⟩

theorem toFinset_eq_of_mem_iff
    {answers others : List String}
    (same : ∀ answer, answer ∈ answers ↔ answer ∈ others) :
    answers.toFinset = others.toFinset := by
  ext answer
  rw [List.mem_toFinset, List.mem_toFinset, same]

/--
The description of a mismatch is unambiguous.  Below a headline of one line it
has exactly three more, whatever characters the answers contain: the two sets,
and how many distinct answers are extra and how many are missing.  Under the
same headline two descriptions are equal exactly if they describe the same
sets.
-/
theorem mismatch_unambiguous
    {headline : String} (oneLine : '\n' ∉ headline.toList)
    (actual expected : List String) :
    pieces (describeMismatch headline actual expected).toList =
        [headline.toList,
          ("Expected:       " ++ setText expected).toList,
          ("Actual:         " ++ setText actual).toList,
          ("(There are " ++
            toString (actual.toFinset \ expected.toFinset).card ++
            " extra and " ++
            toString (expected.toFinset \ actual.toFinset).card ++
            " missing answers)").toList] ∧
      ∀ printed wanted : List String,
        describeMismatch headline printed wanted =
            describeMismatch headline actual expected ↔
          (∀ answer, answer ∈ wanted ↔ answer ∈ expected) ∧
            ∀ answer, answer ∈ printed ↔ answer ∈ actual := by
  refine ⟨pieces_describeMismatch oneLine actual expected, ?_⟩
  intro printed wanted
  constructor
  · intro same
    have lines := congrArg (fun text => pieces text.toList) same
    simp only [pieces_describeMismatch oneLine, String.toList_append,
      List.cons.injEq, List.append_cancel_left_eq, String.toList_inj,
      setText_eq_iff] at lines
    exact ⟨lines.2.1, lines.2.2.1⟩
  · rintro ⟨wantedSame, printedSame⟩
    have wantedSet := toFinset_eq_of_mem_iff wantedSame
    have printedSet := toFinset_eq_of_mem_iff printedSame
    rw [describeMismatch_eq, describeMismatch_eq,
      (setText_eq_iff wanted expected).mpr wantedSame,
      (setText_eq_iff printed actual).mpr printedSame, countLine,
      wantedSet, printedSet]
    rfl

/-- An answer that looks like two quoted ones is told apart from the two. -/
theorem mismatch_unambiguous_lookalike :
    '\n' ∉ "Wrong:".toList ∧
      describeMismatch "Wrong:" ["a\", \"b"] [] ≠
        describeMismatch "Wrong:" ["a", "b"] [] := by
  have oneLine : '\n' ∉ "Wrong:".toList := by decide
  refine ⟨oneLine, ?_⟩
  intro same
  have sets :=
    ((mismatch_unambiguous oneLine ["a", "b"] []).2 ["a\", \"b"] []).mp same
  exact absurd ((sets.2 "a").mpr List.mem_cons_self) (by decide)

end ResolverGrader.Answer
