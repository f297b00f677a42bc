import Mathlib.Logic.Function.Basic
import Mathlib.Tactic.ByContra
import ResolverGrader.Proofs.Text.Hexadecimal
import ResolverGrader.Proofs.Text.Lines
import ResolverGrader.QueryDiff

/-!
# What the drawing of a difference shows

Two messages are compared by their digits, past those of the identifiers, and
that is to compare their octets past the first two.  Where they differ a
drawing shows both messages and the exclusive or of all octets that are
compared, each octet of each row in the same two columns.

`differences_drawn` says so for every pair of messages, however long or short
they are.
-/

namespace ResolverGrader.QueryDiff

open ResolverGrader.Octets ResolverGrader.Text

/-! ## Agreement -/

theorem agree_eq_true_iff (actual expected : Octets) :
    agree actual expected = true ↔ actual.drop 2 = expected.drop 2 := by
  unfold agree idLength
  rw [decide_eq_true_iff, ← hexDigits_drop, ← hexDigits_drop]
  exact hexDigits_injective.eq_iff

theorem agree_equivalence :
    Equivalence fun actual expected => agree actual expected = true := by
  simp only [agree_eq_true_iff]
  exact ⟨fun _ => rfl, Eq.symm, Eq.trans⟩

/-! ## The exclusive or -/

/--
The exclusive or of two octets that may be missing; of one alone every bit is
set.
-/
def exclusiveOrAt : Option UInt8 → Option UInt8 → Option UInt8
  | some left, some right => some (left ^^^ right)
  | some _, none => some 0xff
  | none, some _ => some 0xff
  | none, none => none

theorem getElem?_exclusiveOr (left right : Octets) (position : Nat) :
    (exclusiveOr left right)[position]? =
      exclusiveOrAt left[position]? right[position]? := by
  induction left, right using exclusiveOr.induct generalizing position with
  | case1 left lefts right rights ih =>
      cases position with
      | zero => rfl
      | succ position => exact ih position
  | case2 rights =>
      rw [exclusiveOr, List.getElem?_map, List.getElem?_nil]
      cases rights[position]? <;> rfl
  | case3 lefts notNil =>
      rw [exclusiveOr, List.getElem?_map, List.getElem?_nil]
      cases lefts[position]? <;> rfl
      exact notNil

/--
Behind the identifiers each offset has its exclusive or, with that of the
expected query first.
-/
theorem getElem?_exclusiveOr_drop (actual expected : Octets) (beyond : Nat) :
    (exclusiveOr (expected.drop idLength) (actual.drop idLength))[beyond]? =
      exclusiveOrAt expected[beyond + 2]? actual[beyond + 2]? := by
  rw [getElem?_exclusiveOr, List.getElem?_drop, List.getElem?_drop,
    Nat.add_comm idLength]
  rfl

theorem exclusiveOrAt_eq_zero_iff (left right : Option UInt8) :
    exclusiveOrAt left right = some 0 ↔
      ∃ octet, left = some octet ∧ right = some octet := by
  cases left with
  | none => cases right <;> simp [exclusiveOrAt]
  | some left =>
      cases right with
      | none => simp [exclusiveOrAt]
      | some right => simp [exclusiveOrAt, eq_comm]

theorem exclusiveOrAt_eq_none_iff {left right : Option UInt8} :
    exclusiveOrAt left right = none ↔ left = none ∧ right = none := by
  cases left <;> cases right <;> simp [exclusiveOrAt]

theorem eq_full_of_missing
    {left right : Option UInt8} {octet : UInt8}
    (missing : left = none ∨ right = none)
    (shown : exclusiveOrAt left right = some octet) : octet = 0xff := by
  cases left <;> cases right <;> simp_all [exclusiveOrAt]

/-! ## Rows -/

/-- The places of an octet in a row that has a label of sixteen columns. -/
def places (row : List Char) (offset : Nat) : List Char :=
  (row.drop (16 + 2 * offset)).take 2

theorem places_append
    {label : List Char} (wide : label.length = 16) (digits : List Char)
    (offset : Nat) :
    places (label ++ digits) offset = (digits.drop (2 * offset)).take 2 := by
  unfold places
  rw [← List.drop_drop, ← wide, List.drop_left]

/-- What three rows show of two messages that differ. -/
structure IsPicture
    (actual expected : Octets) (first second third : List Char) :
    Prop where
  expectedRow : IsWritten (first.drop 16) expected
  actualRow : IsWritten (second.drop 16) actual
  placeholder : (third.drop 16).take 4 = "-id-".toList
  width : third.length = 16 + 2 * max actual.length expected.length
  expectedPlaces :
    ∀ offset octet, expected[offset]? = some octet →
      IsWritten (places first offset) [octet]
  actualPlaces :
    ∀ offset octet, actual[offset]? = some octet →
      IsWritten (places second offset) [octet]
  bothPlaces :
    ∀ offset left right, 2 ≤ offset → expected[offset]? = some left →
      actual[offset]? = some right →
        IsWritten (places third offset) [left ^^^ right]
  onePlaces :
    ∀ offset, 2 ≤ offset → offset < max actual.length expected.length →
      expected[offset]? = none ∨ actual[offset]? = none →
        places third offset = "ff".toList
  zeros_iff :
    ∀ offset, 2 ≤ offset → offset < max actual.length expected.length →
      (places third offset = "00".toList ↔
        ∃ octet, expected[offset]? = some octet ∧
          actual[offset]? = some octet)
  differs :
    ∃ offset, 2 ≤ offset ∧ offset < max actual.length expected.length ∧
      places third offset ≠ "00".toList

/-! ## The rows of a drawing -/

/-- The row of the exclusive or, with its label. -/
def differenceRow (actual expected : Octets) : List Char :=
  "XOR:            ".toList ++ (exclusiveOrRow actual expected).toList

theorem toList_exclusiveOrRow (actual expected : Octets) :
    (exclusiveOrRow actual expected).toList =
      "-id-".toList ++
        (exclusiveOr (expected.drop idLength)
          (actual.drop idLength)).hexDigits := by
  unfold exclusiveOrRow Octets.hex
  simp only [String.toList_append, String.toList_ofList]

/-- A drawing has four lines: a headline and three rows. -/
theorem pieces_drawing (actual expected : Octets) :
    pieces (drawing actual expected).toList =
      ["The query sent differs from the expected query:".toList,
        "Expected query: ".toList ++ expected.hexDigits,
        "Actual query:   ".toList ++ actual.hexDigits,
        differenceRow actual expected] := by
  have digits (octets : Octets) : '\n' ∉ octets.hex.toList := by
    unfold Octets.hex
    rw [String.toList_ofList]
    intro member
    exact absurd ((isWritten_hexDigits octets).small '\n' member)
      (by decide)
  unfold drawing differenceRow
  rw [pieces_joinLines (by simp)]
  simp only [List.flatMap_cons, List.flatMap_nil]
  rw [pieces_of_not_mem (by decide), pieces_of_not_mem,
    pieces_of_not_mem, pieces_of_not_mem]
  · simp only [Octets.hex, String.toList_append, String.toList_ofList,
      List.singleton_append]
  · unfold exclusiveOrRow
    simp only [not_mem_toList_append]
    exact ⟨by decide, by decide, digits _⟩
  · rw [not_mem_toList_append]
    exact ⟨by decide, digits actual⟩
  · rw [not_mem_toList_append]
    exact ⟨by decide, digits expected⟩

theorem places_differenceRow
    {actual expected : Octets} {offset : Nat} {octet : UInt8}
    (beyond : 2 ≤ offset)
    (shown :
      exclusiveOrAt expected[offset]? actual[offset]? = some octet) :
    places (differenceRow actual expected) offset = hexPair octet := by
  obtain ⟨beyond, rfl⟩ := Nat.exists_eq_add_of_le' beyond
  rw [← getElem?_exclusiveOr_drop] at shown
  unfold differenceRow
  rw [places_append (by decide), toList_exclusiveOrRow,
    Nat.mul_add, Nat.add_comm, ← List.drop_drop]
  exact take_drop_hexDigits shown

/-- Where one message at least has an octet, something is shown. -/
theorem exclusiveOrAt_isSome
    {actual expected : Octets} {offset : Nat}
    (inside : offset < max actual.length expected.length) :
    ∃ octet, exclusiveOrAt expected[offset]? actual[offset]? =
      some octet := by
  apply Option.ne_none_iff_exists'.mp
  intro nothing
  obtain ⟨noExpected, noActual⟩ := exclusiveOrAt_eq_none_iff.mp nothing
  have pastExpected := List.getElem?_eq_none_iff.mp noExpected
  have pastActual := List.getElem?_eq_none_iff.mp noActual
  omega

/--
Messages that differ behind their identifiers do so at some offset of the
longer one.
-/
theorem exists_offset_of_not_agree
    {actual expected : Octets}
    (differ : agree actual expected = false) :
    ∃ offset, 2 ≤ offset ∧ offset < max actual.length expected.length ∧
      expected[offset]? ≠ actual[offset]? := by
  by_contra nowhere
  have everywhere :
      ∀ offset, 2 ≤ offset → expected[offset]? = actual[offset]? := by
    intro offset beyond
    by_cases inside : offset < max actual.length expected.length
    · by_contra here
      exact nowhere ⟨offset, beyond, inside, here⟩
    · obtain ⟨pastActual, pastExpected⟩ :=
        Nat.max_le.mp (Nat.le_of_not_lt inside)
      rw [List.getElem?_eq_none pastActual,
        List.getElem?_eq_none pastExpected]
  have same : agree actual expected = true := by
    rw [agree_eq_true_iff]
    apply List.ext_getElem?
    intro position
    rw [List.getElem?_drop, List.getElem?_drop]
    exact (everywhere (2 + position) (Nat.le_add_right 2 position)).symm
  rw [same] at differ
  cases differ

/--
The rows of a drawing show what there is to show of two messages that differ.
-/
theorem isPicture_rows
    {actual expected : Octets} (differ : agree actual expected = false) :
    IsPicture actual expected
      ("Expected query: ".toList ++ expected.hexDigits)
      ("Actual query:   ".toList ++ actual.hexDigits)
      (differenceRow actual expected) := by
  obtain ⟨somewhere, beyondId, withinBoth, unequal⟩ :=
    exists_offset_of_not_agree differ
  have zeros_iff (offset : Nat) (beyond : 2 ≤ offset)
      (inside : offset < max actual.length expected.length) :
      places (differenceRow actual expected) offset = "00".toList ↔
        ∃ octet, expected[offset]? = some octet ∧
          actual[offset]? = some octet := by
    obtain ⟨octet, shown⟩ := exclusiveOrAt_isSome inside
    rw [places_differenceRow beyond shown, ← exclusiveOrAt_eq_zero_iff,
      shown, Option.some.injEq]
    exact hexPair_eq_zeros_iff octet
  constructor
  case expectedRow => exact isWritten_hexDigits expected
  case actualRow => exact isWritten_hexDigits actual
  case placeholder =>
    unfold differenceRow
    rw [toList_exclusiveOrRow]
    rfl
  case width =>
    unfold differenceRow
    rw [toList_exclusiveOrRow, List.length_append, List.length_append,
      length_hexDigits, length_exclusiveOr, List.length_drop,
      List.length_drop]
    show 16 + (4 + 2 * max (expected.length - 2) (actual.length - 2)) =
      16 + 2 * max actual.length expected.length
    omega
  case expectedPlaces =>
    intro offset octet there
    rw [places_append (by decide), take_drop_hexDigits there]
    exact isWritten_hexPair octet
  case actualPlaces =>
    intro offset octet there
    rw [places_append (by decide), take_drop_hexDigits there]
    exact isWritten_hexPair octet
  case bothPlaces =>
    intro offset left right beyond inExpected inActual
    have shown :
        exclusiveOrAt expected[offset]? actual[offset]? =
          some (left ^^^ right) := by
      rw [inExpected, inActual, exclusiveOrAt]
    rw [places_differenceRow beyond shown]
    exact isWritten_hexPair (left ^^^ right)
  case onePlaces =>
    intro offset beyond inside missing
    obtain ⟨octet, shown⟩ := exclusiveOrAt_isSome inside
    rw [places_differenceRow beyond shown,
      eq_full_of_missing missing shown]
    rfl
  case zeros_iff => exact zeros_iff
  case differs =>
    refine ⟨somewhere, beyondId, withinBoth, ?_⟩
    rw [ne_eq, zeros_iff somewhere beyondId withinBoth]
    rintro ⟨octet, inExpected, inActual⟩
    exact unequal (inExpected.trans inActual.symm)

/--
Two messages compare equal exactly if they agree after their first two octets,
and this is an equivalence.  Nothing is drawn then, and otherwise a drawing is
made of four lines, the last three of which are a picture of both messages and
of their difference.
-/
theorem differences_drawn :
    (∀ actual expected : Octets,
      agree actual expected = true ↔
        actual.drop 2 = expected.drop 2) ∧
      (Equivalence fun actual expected => agree actual expected = true) ∧
      ∀ actual expected : Octets,
        (agree actual expected = true ∧
            drawing? actual expected = none) ∨
          (agree actual expected = false ∧
            ∃ drawing headline first second third,
              drawing? actual expected = some drawing ∧
                pieces drawing.toList =
                  [headline, first, second, third] ∧
                IsPicture actual expected first second third) := by
  refine ⟨agree_eq_true_iff, agree_equivalence, ?_⟩
  intro actual expected
  cases compared : agree actual expected with
  | true => exact Or.inl ⟨rfl, if_pos compared⟩
  | false =>
      have drawn :
          drawing? actual expected = some (drawing actual expected) :=
        if_neg (by simp [compared])
      exact Or.inr ⟨rfl, _, _, _, _, _, drawn,
        pieces_drawing actual expected, isPicture_rows compared⟩

end ResolverGrader.QueryDiff
