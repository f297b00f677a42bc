import ResolverGrader.Proofs.Text.Ascii
import ResolverGrader.Proofs.Text.Blank
import ResolverGrader.Proofs.Text.Digits
import ResolverGrader.Proofs.Text.Lines

/-!
# Legible text

A text is legible if it consists of spaces and visible ASCII characters and not
of spaces alone.  So it is not blank, it has no line feed, and its octets read
back as the same text; and so is every other way to write it in capital and
small letters.

Digits in any base are legible, and so are legible parts that are put together
with printable text around or between them.
-/

namespace ResolverGrader.Text

/-- A text of spaces and visible ASCII characters. -/
def IsPrintable (text : List Char) : Prop :=
  ∀ character ∈ text, 32 ≤ character.toNat ∧ character.toNat ≤ 126

/-- A printable text that has something other than spaces. -/
def IsLegible (text : List Char) : Prop :=
  IsPrintable text ∧ ∃ character ∈ text, 32 < character.toNat

instance (text : List Char) : Decidable (IsPrintable text) :=
  List.decidableBAll _ text

instance (text : List Char) : Decidable (IsLegible text) :=
  @instDecidableAnd _ _ inferInstance (List.decidableBEx _ text)

/-! ## Putting text together -/

@[simp]
theorem isPrintable_nil : IsPrintable [] :=
  List.forall_mem_nil _

@[simp]
theorem isPrintable_append {left right : List Char} :
    IsPrintable (left ++ right) ↔ IsPrintable left ∧ IsPrintable right :=
  List.forall_mem_append

theorem isPrintable_flatMap
    {α : Type} {items : List α} {characters : α → List Char}
    (each : ∀ item ∈ items, IsPrintable (characters item)) :
    IsPrintable (items.flatMap characters) := by
  intro character member
  obtain ⟨item, among, inside⟩ := List.mem_flatMap.mp member
  exact each item among character inside

theorem isPrintable_intercalate
    {separator : List Char} (between : IsPrintable separator)
    {parts : List (List Char)} (each : ∀ part ∈ parts, IsPrintable part) :
    IsPrintable (List.intercalate separator parts) :=
  forall_mem_intercalate between each

theorem IsPrintable.newline_not_mem
    {text : List Char} (printable : IsPrintable text) : '\n' ∉ text := by
  intro member
  have bounds := printable '\n' member
  exact absurd bounds.1 (by decide)

theorem IsLegible.append
    {left right : List Char} (legible : IsLegible left)
    (after : IsPrintable right) : IsLegible (left ++ right) := by
  obtain ⟨printable, character, member, visible⟩ := legible
  exact ⟨isPrintable_append.mpr ⟨printable, after⟩,
    character, List.mem_append_left right member, visible⟩

theorem IsLegible.prepend
    {left right : List Char} (legible : IsLegible right)
    (before : IsPrintable left) : IsLegible (left ++ right) := by
  obtain ⟨printable, character, member, visible⟩ := legible
  exact ⟨isPrintable_append.mpr ⟨before, printable⟩,
    character, List.mem_append_right left member, visible⟩

/-- Legible parts with printable text between each two of them are legible. -/
theorem isLegible_intercalate
    {separator : List Char} (between : IsPrintable separator)
    {parts : List (List Char)} (some_part : parts ≠ [])
    (each : ∀ part ∈ parts, IsLegible part) :
    IsLegible (List.intercalate separator parts) := by
  cases parts with
  | nil => exact absurd rfl some_part
  | cons part rest =>
      obtain ⟨here, later⟩ := List.forall_mem_cons.mp each
      by_cases alone : rest = []
      · rwa [alone, List.intercalate_singleton]
      · rw [List.intercalate_cons_of_ne_nil alone]
        refine (here.append between).append ?_
        exact isPrintable_intercalate between
          fun part member => (later part member).1

/-! ## Digits -/

/--
Whatever the number, its digit is visible: past the last digit a star is
written.
-/
theorem isLegible_digitChar (number : Nat) :
    IsLegible [Nat.digitChar number] := by
  by_cases small : number < 16
  · revert number
    decide
  · rw [Nat.digitChar_eq_star.mpr (Nat.le_of_not_lt small)]
    decide

theorem isLegible_toDigits
    {base : Nat} (proper : 1 < base) (number : Nat) :
    IsLegible (Nat.toDigits base number) := by
  induction number using toDigits_induction proper with
  | single digit _ => exact isLegible_digitChar digit
  | more _ _ digit _ ih => exact ih.append (isLegible_digitChar digit).1

theorem isLegible_decimalDigits (number : Nat) :
    IsLegible (decimalDigits number) :=
  isLegible_toDigits (by decide) number

theorem isLegible_hexadecimalDigits (number : Nat) :
    IsLegible (hexadecimalDigits number) :=
  isLegible_toDigits (by decide) number

theorem isLegible_toString_nat (number : Nat) :
    IsLegible (toString number).toList := by
  rw [Nat.toString_eq_repr, Nat.toList_repr]
  exact isLegible_decimalDigits number

theorem isLegible_toString_int (number : Int) :
    IsLegible (toString number).toList := by
  rw [Int.toString_eq_repr, Int.repr_eq_if]
  split
  · rw [Nat.toList_repr]
    exact isLegible_decimalDigits _
  · rw [String.toList_append, Nat.toList_repr]
    exact (isLegible_decimalDigits _).prepend (by decide)

/-! ## What legible text is good for -/

namespace IsLegible

variable {text : List Char}

theorem isAscii (legible : IsLegible text) : IsAscii text := by
  intro character member
  have := legible.1 character member
  omega

theorem newline_not_mem (legible : IsLegible text) : '\n' ∉ text :=
  legible.1.newline_not_mem

theorem exists_visible (legible : IsLegible text) :
    ∃ character ∈ text, isBlank character = false := by
  obtain ⟨printable, character, member, visible⟩ := legible
  exact ⟨character, member,
    isBlank_of_visible visible (printable character member).2⟩

/-- Letter case has no part in whether a text is legible. -/
theorem of_sameLetters
    (legible : IsLegible text) {line : List Char}
    (same : SameLetters line text) : IsLegible line := by
  obtain ⟨printable, someVisible⟩ := legible
  constructor
  · refine (same.forall_mem_iff _ ?_).mpr printable
    intro character
    rw [toNat_toLower]
    split <;> omega
  · refine (same.exists_mem_iff _ ?_).mpr someVisible
    intro character
    rw [toNat_toLower]
    split <;> omega

end IsLegible

end ResolverGrader.Text
