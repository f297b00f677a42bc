import ResolverGrader.Text.Digits
import ResolverGrader.Text.Lowercase
import ResolverGrader.Text.Quoted
import ResolverGrader.Text.Sorted
import ResolverGrader.Text.Split
import ResolverGrader.Text.Utf8

/-!
# Answers

The answers that a submission prints are compared with those that were
expected, after both have been brought to a normal form.
-/

namespace ResolverGrader.Answer

open ResolverGrader.Text

/-!
## The normal form of answers

A submission prints one answer a line.  An answer is an address or a name; to
compare answers the letter case and the final dot of a name are made uniform.
-/

/--
Characters with a dot at the end, unless they end in a dot or an ASCII digit.
-/
def endDot (answer : List Char) : List Char :=
  match answer.getLast? with
  | some last =>
    if last = '.' ∨ isDecimal last then answer else answer ++ ['.']
  | none => ['.']

/--
The characters of an answer's normal form: lower case, and a final dot after a
name.
-/
def normalizeChars (answer : List Char) : List Char :=
  endDot (lowercase answer)

/-- The normal form of an answer. -/
def normalize (answer : String) : String :=
  String.ofList (normalizeChars answer.toList)

/-- The normal forms of answers, one for each in the same order. -/
def normalizeAll (answers : List String) : List String :=
  answers.map normalize

/--
The answers a submission printed: the lines of its output that are not blank,
in order of code points.  Only line feeds end a line, and nothing else is
trimmed.
-/
def ofOutput (stdout : Octets) : List String :=
  sorted
    (((pieces (Utf8.decode stdout)).filter fun line => trim line ≠ []).map
      String.ofList)

/--
Whether an answer is an address: nothing but ASCII digits and dots, and at
least one digit.
-/
def isNumeric (answer : String) : Bool :=
  let digits := answer.toList.filter (· ≠ '.')
  digits ≠ [] && digits.all isDecimal

/--
Whether some answer is a name, which means that the response leads through an
alias.
-/
def hasName (answers : List String) : Bool :=
  answers.any fun answer => !isNumeric answer

@[simp]
theorem length_normalizeAll (answers : List String) :
    (normalizeAll answers).length = answers.length := by
  simp [normalizeAll]

/-- An answer's normal form ends in a dot or an ASCII digit. -/
theorem getLast?_endDot (answer : List Char) :
    ∃ last ∈ (endDot answer).getLast?, last = '.' ∨ isDecimal last = true := by
  unfold endDot
  cases ending : answer.getLast? with
  | none => simp
  | some last =>
    by_cases final : last = '.' ∨ isDecimal last = true <;>
      simp [final, ending]

/-!
## Comparing answers

Answers are compared as sets: neither order nor repetition matters.  A mismatch
is described by both sets, with every answer quoted, and by the sizes of the
two differences.
-/

/--
The two differences of the sets, each in strictly ascending order of code
points.
-/
structure Comparison where
  /-- Expected answers that were not printed. -/
  missing : List String
  /-- Printed answers that were not expected. -/
  extra : List String
  deriving DecidableEq, Repr

/--
The entries of one list that the other one lacks, in order and without
repetition.
-/
def difference (present absent : List String) : List String :=
  (distinct present).filter fun answer => !absent.contains answer

/-- Compares answers as sets. -/
def compare (actual expected : List String) : Comparison :=
  ⟨difference expected actual, difference actual expected⟩

/-- Whether the compared sets are equal. -/
def Comparison.equal (comparison : Comparison) : Bool :=
  comparison.missing.isEmpty && comparison.extra.isEmpty

/-- A set of answers: quoted, in order, between braces. -/
def setText (answers : List String) : String :=
  let quoted := (distinct answers).map fun answer =>
    String.ofList (Quoted.quote answer.toList)
  "\x7b" ++ String.intercalate ", " quoted ++ "\x7d"

/-- The description of a mismatch below its headline. -/
def describeMismatch (headline : String) (actual expected : List String) :
    String :=
  let comparison := compare actual expected
  joinLines [headline,
    "Expected:       " ++ setText expected,
    "Actual:         " ++ setText actual,
    "(There are " ++ toString comparison.extra.length ++ " extra and " ++
      toString comparison.missing.length ++ " missing answers)"]

@[simp]
theorem mem_difference {answer : String} {present absent : List String} :
    answer ∈ difference present absent ↔
      answer ∈ present ∧ answer ∉ absent := by
  simp [difference]

theorem pairwise_difference (present absent : List String) :
    (difference present absent).Pairwise (· < ·) :=
  (pairwise_distinct present).filter _

end ResolverGrader.Answer
