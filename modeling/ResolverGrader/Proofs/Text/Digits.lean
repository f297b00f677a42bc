import Mathlib.Data.List.Basic
import ResolverGrader.Text.Digits

/-!
# Reading digits back

The digits of a number, in any base up to sixteen, are a run of digits of that
base and write the number.  A zero stands first in no run of several digits.
So a reader of numbers reads a printed number back whatever follows it, as long
as that does not go on with a digit.

All of this is by one induction: a number is a single digit, or a positive
number with one digit after it.
-/

namespace ResolverGrader.Text

/-- A number is a digit, or a digit behind the digits of a positive number. -/
theorem toDigits_induction
    {base : Nat} (proper : 1 < base)
    {holds : Nat → List Char → Prop}
    (single : ∀ digit < base, holds digit [Nat.digitChar digit])
    (more : ∀ number, 0 < number → ∀ digit < base,
      holds number (Nat.toDigits base number) →
        holds (base * number + digit)
          (Nat.toDigits base number ++ [Nat.digitChar digit]))
    (number : Nat) : holds number (Nat.toDigits base number) := by
  induction number using Nat.strongRecOn with
  | ind number ih =>
      rw [Nat.toDigits_eq_if proper]
      split
      · next small => exact single number small
      · next large =>
        have positive : 0 < number / base :=
          Nat.div_pos (Nat.not_lt.mp large) (by omega)
        have less : number / base < number :=
          Nat.div_lt_self (by omega) proper
        have step := more (number / base) positive (number % base)
          (Nat.mod_lt _ (by omega)) (ih _ less)
        rwa [Nat.div_add_mod] at step

section

variable {base : Nat} (proper : 1 < base) (hexadecimal : base ≤ 16)
include hexadecimal

theorem digitValue?_digitChar {digit : Nat} (small : digit < base) :
    digitValue? base (Nat.digitChar digit) = some digit := by
  have known :
      ∀ digit < 16,
        Octets.hexValue? (Nat.digitChar digit) = some digit := by
    decide
  unfold digitValue?
  rw [known digit (by omega), Option.filter_some, if_pos]
  exact decide_eq_true small

theorem isDigitIn_digitChar {digit : Nat} (small : digit < base) :
    isDigitIn base (Nat.digitChar digit) = true := by
  unfold isDigitIn
  rw [digitValue?_digitChar hexadecimal small]
  rfl

include proper

theorem isDigitIn_of_mem_toDigits
    (number : Nat) :
    ∀ character ∈ Nat.toDigits base number,
      isDigitIn base character = true := by
  induction number using toDigits_induction proper with
  | single digit small =>
      rw [List.forall_mem_singleton]
      exact isDigitIn_digitChar hexadecimal small
  | more number positive digit small ih =>
      rw [List.forall_mem_append, List.forall_mem_singleton]
      exact ⟨ih, isDigitIn_digitChar hexadecimal small⟩

/-- The digits of a number write the number. -/
theorem digitsValue_toDigits (number : Nat) :
    digitsValue base (Nat.toDigits base number) = number := by
  induction number using toDigits_induction proper with
  | single digit small =>
      simp [digitsValue, digitValue?_digitChar hexadecimal small]
  | more number positive digit small ih =>
      unfold digitsValue at ih ⊢
      rw [List.foldl_append, ih, List.foldl_cons, List.foldl_nil,
        digitValue?_digitChar hexadecimal small, Option.getD_some,
        Nat.mul_comm]

theorem head?_toDigits_ne_zero
    (number : Nat) :
    0 < number → (Nat.toDigits base number).head? ≠ some '0' := by
  induction number using toDigits_induction proper with
  | single digit small =>
      have known :
          ∀ digit < 16, 0 < digit → Nat.digitChar digit ≠ '0' := by
        decide
      intro positive zero
      rw [List.head?_singleton, Option.some.injEq] at zero
      exact known digit (by omega) positive zero
  | more number positive digit small ih =>
      intro _
      rw [List.head?_append_of_ne_nil _ Nat.toDigits_ne_nil]
      exact ih positive

end

/-- A digit of a base is a digit of every greater one. -/
theorem isDigitIn_of_le
    {base greater : Nat} (within : base ≤ greater) {character : Char}
    (digit : isDigitIn base character = true) :
    isDigitIn greater character = true := by
  obtain ⟨value, written⟩ := Option.isSome_iff_exists.mp digit
  obtain ⟨found, small⟩ := Option.filter_eq_some_iff.mp written
  rw [decide_eq_true_eq] at small
  unfold isDigitIn digitValue?
  rw [found, Option.filter_some, if_pos (decide_eq_true (by omega))]
  rfl

theorem toNat_of_isDigitIn
    {base : Nat} {character : Char}
    (digit : isDigitIn base character = true) :
    48 ≤ character.toNat ∧ character.toNat ≤ 102 := by
  obtain ⟨value, written⟩ := Option.isSome_iff_exists.mp digit
  have found := (Option.filter_eq_some_iff.mp written).1
  have bounds {low high : Char} :
      (decide (low ≤ character) && decide (character ≤ high)) = true →
        low.toNat ≤ character.toNat ∧ character.toNat ≤ high.toNat := by
    rw [Bool.and_eq_true, decide_eq_true_eq, decide_eq_true_eq]
    exact id
  unfold Octets.hexValue? at found
  split at found
  · next decimal =>
    obtain ⟨low, high⟩ := bounds decimal
    exact ⟨low, Nat.le_trans high (by decide)⟩
  · split at found
    · next small =>
      obtain ⟨low, high⟩ := bounds small
      exact ⟨Nat.le_trans (by decide) low, high⟩
    · split at found
      · next capital =>
        obtain ⟨low, high⟩ := bounds capital
        exact ⟨Nat.le_trans (by decide) low,
          Nat.le_trans high (by decide)⟩
      · cases found

/-! ## Reading -/

/-- Whether a run of digits that stands before a text ends there. -/
def EndsRun (base : Nat) (rest : List Char) : Prop :=
  ∀ character ∈ rest.head?, isDigitIn base character = false

@[simp]
theorem endsRun_nil (base : Nat) : EndsRun base [] := by
  rintro _ ⟨⟩

@[simp]
theorem endsRun_cons {base : Nat} {first : Char} {rest : List Char} :
    EndsRun base (first :: rest) ↔ isDigitIn base first = false := by
  constructor
  · intro ends
    exact ends first rfl
  · rintro other _ ⟨⟩
    exact other

theorem EndsRun.takeWhile_eq_nil
    {base : Nat} {rest : List Char} (ends : EndsRun base rest) :
    rest.takeWhile (isDigitIn base) = [] := by
  cases rest with
  | nil => rfl
  | cons first more =>
      rw [endsRun_cons] at ends
      exact List.takeWhile_cons_of_neg (by simp [ends])

theorem EndsRun.dropWhile_eq_self
    {base : Nat} {rest : List Char} (ends : EndsRun base rest) :
    rest.dropWhile (isDigitIn base) = rest := by
  cases rest with
  | nil => rfl
  | cons first more =>
      rw [endsRun_cons] at ends
      exact List.dropWhile_cons_of_neg (by simp [ends])

theorem EndsRun.of_le
    {base greater : Nat} (within : base ≤ greater) {rest : List Char}
    (ends : EndsRun greater rest) : EndsRun base rest := by
  intro character first
  have other := ends character first
  rw [Bool.eq_false_iff] at other ⊢
  exact fun digit => other (isDigitIn_of_le within digit)

namespace NumberForm

/-- What a reader asks of a number whose digits it is given. -/
def Admits (form : NumberForm) (number : Nat) : Prop :=
  number < form.bound ∧
    ∀ most ∈ form.maxDigits, (Nat.toDigits form.base number).length ≤ most

theorem admits_of_lt
    {form : NumberForm} (unlimited : form.maxDigits = none)
    {number : Nat} (below : number < form.bound) : form.Admits number := by
  refine ⟨below, ?_⟩
  rw [unlimited]
  rintro _ ⟨⟩

variable {form : NumberForm} (proper : 1 < form.base)
  (hexadecimal : form.base ≤ 16)
include proper hexadecimal

theorem accepts_toDigits
    {number : Nat} (admitted : form.Admits number) :
    form.accepts (Nat.toDigits form.base number) = true := by
  obtain ⟨below, fits⟩ := admitted
  have noZeroFirst :
      (Nat.toDigits form.base number).length ≤ 1 ∨
        (Nat.toDigits form.base number).head? ≠ some '0' := by
    rcases Nat.eq_zero_or_pos number with rfl | positive
    · exact Or.inl (by simp)
    · exact Or.inr
        (head?_toDigits_ne_zero proper hexadecimal number positive)
  unfold accepts
  simp only [Bool.and_eq_true, Bool.or_eq_true, decide_eq_true_eq]
  refine ⟨⟨⟨Nat.toDigits_ne_nil, ?_⟩, ?_⟩, ?_⟩
  · cases limit : form.maxDigits with
    | none => rfl
    | some most => exact decide_eq_true (fits most limit)
  · rcases noZeroFirst with short | other
    · exact Or.inl (Or.inr short)
    · exact Or.inr other
  · rwa [digitsValue_toDigits proper hexadecimal]

/-- A printed number is read back, and the rest of the text is left. -/
theorem read?_toDigits_append
    {number : Nat} (admitted : form.Admits number)
    {rest : List Char} (ends : EndsRun form.base rest) :
    form.read? (Nat.toDigits form.base number ++ rest) =
      some (number, rest) := by
  have digits := isDigitIn_of_mem_toDigits proper hexadecimal number
  unfold read?
  rw [List.takeWhile_append_of_pos digits, ends.takeWhile_eq_nil,
    List.append_nil, List.dropWhile_append_of_pos digits,
    ends.dropWhile_eq_self]
  simp only [accepts_toDigits proper hexadecimal admitted, if_true,
    digitsValue_toDigits proper hexadecimal]

omit proper hexadecimal in
/-- Where no digit stands there is no number to read. -/
theorem read?_of_endsRun
    {text : List Char} (ends : EndsRun form.base text) :
    form.read? text = none := by
  unfold read? accepts
  simp [ends.takeWhile_eq_nil]

omit proper hexadecimal in
/-- A number that is read ends where the digits end. -/
theorem rest_of_read?
    {text rest : List Char} {number : Nat}
    (read : form.read? text = some (number, rest)) :
    rest = text.dropWhile (isDigitIn form.base) := by
  unfold read? at read
  dsimp only at read
  split at read
  · cases read
    rfl
  · cases read

end NumberForm

end ResolverGrader.Text
