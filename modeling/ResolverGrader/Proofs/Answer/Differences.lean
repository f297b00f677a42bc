import Mathlib.Data.Finset.Card
import Mathlib.Data.List.Permutation
import Mathlib.Data.List.Sort
import ResolverGrader.Proofs.Answer.Sets

/-!
# The two differences of answers

What was expected and not printed, and what was printed and not expected, are
the two differences of two sets.  Each is listed in strictly ascending order,
so it is determined by its entries: swapping the sets swaps the differences,
and how a list is ordered or repeats itself cannot be seen in them.

`comparison_exact` puts this together with the sizes of the two sets, which
differ as the sizes of the two differences do.
-/

namespace ResolverGrader.Answer

open ResolverGrader.Text

/--
What one set has and another one lacks, in strictly ascending order of code
points.
-/
structure IsDifference (entries present absent : List String) : Prop where
  ascending : entries.Pairwise (· < ·)
  mem_iff : ∀ answer,
    answer ∈ entries ↔ answer ∈ present ∧ answer ∉ absent

theorem isDifference_difference (present absent : List String) :
    IsDifference (difference present absent) present absent where
  ascending := pairwise_difference present absent
  mem_iff := fun _ => mem_difference

namespace IsDifference

variable {entries others present absent : List String}

/-- Two sets have one difference. -/
theorem unique
    (first : IsDifference entries present absent)
    (second : IsDifference others present absent) :
    entries = others := by
  refine first.ascending.eq_of_mem_iff second.ascending ?_
  intro answer
  rw [first.mem_iff, second.mem_iff]

/-- A difference depends on nothing but which entries the two lists have. -/
theorem congr
    {samePresent sameAbsent : List String}
    (difference : IsDifference entries present absent)
    (presentEq : samePresent.toFinset = present.toFinset)
    (absentEq : sameAbsent.toFinset = absent.toFinset) :
    IsDifference entries samePresent sameAbsent where
  ascending := difference.ascending
  mem_iff := by
    intro answer
    rw [← List.mem_toFinset (l := samePresent),
      ← List.mem_toFinset (l := sameAbsent), presentEq, absentEq,
      List.mem_toFinset, List.mem_toFinset, difference.mem_iff]

theorem toFinset_eq (difference : IsDifference entries present absent) :
    entries.toFinset = present.toFinset \ absent.toFinset := by
  ext answer
  simp only [List.mem_toFinset, Finset.mem_sdiff, difference.mem_iff]

/-- No entry is listed twice. -/
theorem length_eq (difference : IsDifference entries present absent) :
    entries.length = (present.toFinset \ absent.toFinset).card := by
  have once : entries.Nodup := difference.ascending.nodup
  rw [← List.toFinset_card_of_nodup once, difference.toFinset_eq]

theorem disjoint
    (difference : IsDifference entries present absent)
    (opposite : IsDifference others absent present) :
    entries.Disjoint others := by
  intro answer here there
  exact ((difference.mem_iff answer).mp here).2
    ((opposite.mem_iff answer).mp there).1

end IsDifference

/-- A list with the same entries compares the same. -/
theorem compare_congr
    {actual expected printed wanted : List String}
    (actualEq : printed.toFinset = actual.toFinset)
    (expectedEq : wanted.toFinset = expected.toFinset) :
    compare printed wanted = compare actual expected := by
  have missing :
      difference wanted printed = difference expected actual :=
    (isDifference_difference wanted printed).unique
      ((isDifference_difference expected actual).congr expectedEq actualEq)
  have extra :
      difference printed wanted = difference actual expected :=
    (isDifference_difference printed wanted).unique
      ((isDifference_difference actual expected).congr actualEq expectedEq)
  unfold compare
  rw [missing, extra]

/-- Either difference completes the set that it lacks to the union of both. -/
theorem card_add_length_difference (present absent : List String) :
    absent.toFinset.card + (difference present absent).length =
      (present.toFinset ∪ absent.toFinset).card := by
  rw [(isDifference_difference present absent).length_eq, Nat.add_comm,
    Finset.card_sdiff_add_card]

theorem compare_swap (actual expected : List String) :
    compare expected actual =
      ⟨(compare actual expected).extra,
        (compare actual expected).missing⟩ :=
  rfl

theorem equal_swap (actual expected : List String) :
    (compare expected actual).equal = (compare actual expected).equal :=
  Bool.and_comm _ _

/--
The comparison of two lists is that of their sets.  What is missing and what is
extra are the two differences, which share nothing; both are empty exactly if
the sets are equal.  Comparing the other way round swaps them and keeps the
verdict.  Any lists with the same entries, in whatever order and however often,
compare the same.  The distinct answers printed, with the missing ones, are as
many as the distinct answers expected, with the extra ones.
-/
theorem comparison_exact (actual expected : List String) :
    IsDifference (compare actual expected).missing expected actual ∧
      IsDifference (compare actual expected).extra actual expected ∧
      (compare actual expected).missing.Disjoint
        (compare actual expected).extra ∧
      ((compare actual expected).equal = true ↔
        ∀ answer, answer ∈ actual ↔ answer ∈ expected) ∧
      compare expected actual =
        ⟨(compare actual expected).extra,
          (compare actual expected).missing⟩ ∧
      (compare expected actual).equal = (compare actual expected).equal ∧
      (∀ printed wanted : List String,
        printed.toFinset = actual.toFinset →
          wanted.toFinset = expected.toFinset →
            compare printed wanted = compare actual expected) ∧
      actual.toFinset.card + (compare actual expected).missing.length =
        expected.toFinset.card +
          (compare actual expected).extra.length := by
  have missing :
      IsDifference (compare actual expected).missing expected actual :=
    isDifference_difference expected actual
  have extra :
      IsDifference (compare actual expected).extra actual expected :=
    isDifference_difference actual expected
  refine ⟨missing, extra, missing.disjoint extra,
    compare_equal_iff actual expected, compare_swap actual expected,
    equal_swap actual expected, fun _ _ => compare_congr, ?_⟩
  calc actual.toFinset.card + (compare actual expected).missing.length
      = (expected.toFinset ∪ actual.toFinset).card :=
        card_add_length_difference expected actual
    _ = (actual.toFinset ∪ expected.toFinset).card := by
        rw [Finset.union_comm]
    _ = expected.toFinset.card + (compare actual expected).extra.length :=
        (card_add_length_difference actual expected).symm

/--
An answer that is printed twice, and behind a greater one, compares as if
printed once.
-/
theorem comparison_exact_repeated :
    ["b.", "a.", "b."].toFinset = ["a.", "b."].toFinset ∧
      compare ["b.", "a.", "b."] ["b.", "c."] = ⟨["c."], ["a."]⟩ := by
  have same : ["b.", "a.", "b."].toFinset = ["a.", "b."].toFinset := by
    decide
  refine ⟨same, ?_⟩
  rw [(comparison_exact ["a.", "b."] ["b.", "c."]).2.2.2.2.2.2.1 _ _ same rfl]
  cbv

end ResolverGrader.Answer
