import ResolverGrader.Proofs.Answer.Numeric
import ResolverGrader.Proofs.Answer.Printing

/-!
# Normalizing answers is a projection

A text is in normal form when it is in lower case and ends in a dot or an ASCII
digit.  Normalizing leads there and leaves alone what is there already, so a
second time changes nothing.  It neither makes a name of an address nor an
address of a name, and the categories that ask for names see the same before
and after.

`normalization_projects` says so for lists of answers, and that both lists of a
trial are made of normal forms.
-/

namespace ResolverGrader

open ResolverGrader.Text

namespace Answer

/-- A text that lower-casing leaves alone and that needs no final dot. -/
structure IsNormal (answer : String) : Prop where
  /-- There is nothing left to lower. -/
  lower : lowercase answer.toList = answer.toList
  /-- The text ends as addresses and dotted names do. -/
  ended : ∃ last ∈ answer.toList.getLast?,
    last = '.' ∨ isDecimal last = true

theorem endDot_of_ended
    {answer : List Char}
    (ended : ∃ last ∈ answer.getLast?, last = '.' ∨ isDecimal last = true) :
    endDot answer = answer := by
  obtain ⟨last, ending, final⟩ := ended
  unfold endDot
  rw [Option.mem_def.mp ending]
  exact if_pos final

theorem endDot_cases (answer : List Char) :
    endDot answer = answer ∨ endDot answer = answer ++ ['.'] := by
  unfold endDot
  split
  · split
    · exact Or.inl rfl
    · exact Or.inr rfl
  · next empty =>
    exact Or.inr (by rw [List.getLast?_eq_none_iff.mp empty]; rfl)

/--
The dot at the end is no capital, and does not end a word that went on before.
-/
theorem lowercase_endDot
    {answer : List Char} (lower : lowercase answer = answer) :
    lowercase (endDot answer) = endDot answer := by
  rcases endDot_cases answer with same | dotted
  · rw [same, lower]
  · rw [dotted, lowercase_append_dot, lower]

theorem isNormal_normalize (answer : String) :
    IsNormal (normalize answer) := by
  constructor
  · rw [normalize, String.toList_ofList]
    exact lowercase_endDot (lowercase_lowercase answer.toList)
  · rw [normalize, String.toList_ofList]
    exact getLast?_endDot _

/-- The texts in normal form are the ones that normalizing leaves alone. -/
theorem normalize_eq_self_iff (answer : String) :
    normalize answer = answer ↔ IsNormal answer := by
  constructor
  · intro fixed
    rw [← fixed]
    exact isNormal_normalize answer
  · intro normal
    unfold normalize normalizeChars
    rw [normal.lower, endDot_of_ended normal.ended, String.ofList_toList]

/-! ## Lists of answers -/

theorem isNormal_of_mem_normalizeAll
    {answers : List String} {form : String}
    (member : form ∈ normalizeAll answers) : IsNormal form := by
  obtain ⟨answer, _, rfl⟩ := List.mem_map.mp member
  exact isNormal_normalize answer

/-- Normal forms are normalized by leaving the list alone. -/
theorem normalizeAll_of_isNormal
    {answers : List String}
    (normal : ∀ answer ∈ answers, IsNormal answer) :
    normalizeAll answers = answers := by
  have fixed : ∀ answer ∈ answers, normalize answer = id answer :=
    fun answer member =>
      (normalize_eq_self_iff answer).mpr (normal answer member)
  rw [normalizeAll, List.map_congr_left fixed, List.map_id]

@[simp]
theorem normalizeAll_normalizeAll (answers : List String) :
    normalizeAll (normalizeAll answers) = normalizeAll answers :=
  normalizeAll_of_isNormal fun _ => isNormal_of_mem_normalizeAll

@[simp]
theorem hasName_normalizeAll (answers : List String) :
    hasName (normalizeAll answers) = hasName answers := by
  have sameKind :
      (fun answer => !isNumeric answer) ∘ normalize =
        fun answer => !isNumeric answer := by
    funext answer
    rw [Function.comp_apply, isNumeric_normalize]
  unfold hasName normalizeAll
  rw [List.any_map, sameKind]

/-! ## The answers of a trial -/

/--
The lines of an output on which there is something to see, in their order.
-/
def visibleLines (stdout : Octets) : List String :=
  ((pieces (Utf8.decode stdout)).filter
    fun line => line.any fun character => !isBlank character).map
      String.ofList

theorem ofOutput_perm_visibleLines (stdout : Octets) :
    (ofOutput stdout).Perm (visibleLines stdout) := by
  have sameLines :
      ∀ line ∈ pieces (Utf8.decode stdout),
        decide (trim line ≠ []) =
          line.any fun character => !isBlank character := by
    intro line _
    rw [Bool.eq_iff_iff, decide_eq_true_eq, trim_ne_nil_iff,
      List.any_eq_true]
    simp only [Bool.not_eq_true']
  unfold visibleLines
  rw [← List.filter_congr sameLines]
  exact ofOutput_perm stdout

/--
Answers as a trial holds them: one normal form for each, in the order of code
points.
-/
structure AreSortedForms (forms answers : List String) : Prop where
  ordered : forms.Pairwise (· ≤ ·)
  normal : ∀ form ∈ forms, IsNormal form
  each : forms.Perm (answers.map normalize)

theorem AreSortedForms.length_eq
    {forms answers : List String}
    (sortedForms : AreSortedForms forms answers) :
    forms.length = answers.length := by
  rw [sortedForms.each.length_eq, List.length_map]

theorem areSortedForms_sorted_normalizeAll
    {answers others : List String} (same : answers.Perm others) :
    AreSortedForms (sorted (normalizeAll answers)) others where
  ordered := pairwise_sorted _
  normal := fun _ member =>
    isNormal_of_mem_normalizeAll (mem_sorted.mp member)
  each := (sorted_perm _).trans (same.map normalize)

end Answer

open Answer

/--
Normalizing is a projection that leaves names names and addresses addresses.  A
list of answers keeps its length and order, a second time changes nothing, and
what comes out are normal forms; these are the texts that are left alone.  What
is numeric before is numeric after, so a list has a name before exactly if it
has one after.  Both lists of a trial are normal forms in order: one for each
line on which there is something to see, and one for each expected answer.
-/
theorem normalization_projects :
    (∀ answers : List String,
      (normalizeAll answers).length = answers.length ∧
        (∀ place : Nat,
          (normalizeAll answers)[place]? =
            (answers[place]?).map normalize) ∧
        normalizeAll (normalizeAll answers) = normalizeAll answers ∧
        (∀ form ∈ normalizeAll answers, IsNormal form) ∧
        hasName (normalizeAll answers) = hasName answers) ∧
      (∀ answer : String,
        (normalize answer = answer ↔ IsNormal answer) ∧
          isNumeric (normalize answer) = isNumeric answer) ∧
      ∀ (queryName : String) (traced checked : Run)
        (expectedQuery : Octets) (expectedAnswers : List String),
        let trial := Trial.ofRuns queryName traced checked expectedQuery
          expectedAnswers
        AreSortedForms trial.answers (visibleLines traced.stdout) ∧
          AreSortedForms trial.expectedAnswers expectedAnswers ∧
          trial.answers.length = (visibleLines traced.stdout).length ∧
          trial.expectedAnswers.length = expectedAnswers.length := by
  refine ⟨?_, ?_, ?_⟩
  · intro answers
    refine ⟨length_normalizeAll answers, fun place => List.getElem?_map,
      normalizeAll_normalizeAll answers, ?_, hasName_normalizeAll answers⟩
    intro form member
    exact isNormal_of_mem_normalizeAll member
  · intro answer
    exact ⟨normalize_eq_self_iff answer, isNumeric_normalize answer⟩
  · intro queryName traced checked expectedQuery expectedAnswers trial
    have printed :
        AreSortedForms trial.answers (visibleLines traced.stdout) :=
      areSortedForms_sorted_normalizeAll
        (ofOutput_perm_visibleLines traced.stdout)
    have expected : AreSortedForms trial.expectedAnswers expectedAnswers :=
      areSortedForms_sorted_normalizeAll (.refl expectedAnswers)
    exact ⟨printed, expected, printed.length_eq, expected.length_eq⟩

/-- A sigma that ends a word stays one behind the dot. -/
example : normalize "ΟΔΟΣ" = "οδος." := by decide +kernel

end ResolverGrader
