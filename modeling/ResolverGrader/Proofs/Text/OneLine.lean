import ResolverGrader.Decimal
import ResolverGrader.Proofs.Text.Legible
import ResolverGrader.Text.Quoted
import ResolverGrader.Trial

/-!
# Texts on one line

What the grader shows of a submission is quoted, written in hexadecimal or
counted, and none of this ever takes a second line: not even a quotation of a
text that has lines itself.

The numbers of points are described more closely, by the few characters they
are written with.
-/

namespace ResolverGrader

open ResolverGrader.Text

/-! ## Quotations -/

namespace Text.Quoted

theorem newline_not_mem_byNumber (character : Char) :
    '\n' ∉ byNumber character := by
  have digits : IsLegible (Nat.toDigits 16 character.toNat) :=
    isLegible_toDigits (by decide) character.toNat
  have printable : IsPrintable (byNumber character) := by
    unfold byNumber
    rw [isPrintable_append, isPrintable_append]
    exact ⟨⟨by decide, digits.1⟩, by decide⟩
  exact printable.newline_not_mem

/-- Whatever the character, its form in a quotation stays on the line. -/
theorem newline_not_mem_escapeChar (character : Char) :
    '\n' ∉ escapeChar character := by
  by_cases named : character ∈ ['\x00', '\t', '\r', '\n', '\\', '"']
  · simp only [List.mem_cons, List.not_mem_nil, or_false] at named
    rcases named with rfl | rfl | rfl | rfl | rfl | rfl <;> decide
  · simp only [List.mem_cons, List.not_mem_nil, or_false, not_or] at named
    obtain ⟨notNul, notTab, notReturn, notNewline, notBackslash,
      notQuote⟩ := named
    simp only [escapeChar, notNul, notTab, notReturn, notNewline,
      notBackslash, notQuote, if_false]
    split
    · exact newline_not_mem_byNumber character
    · rw [List.mem_singleton]
      exact Ne.symm notNewline

theorem newline_not_mem_quote (text : List Char) :
    '\n' ∉ quote text := by
  have inside : '\n' ∉ escape text := by
    intro member
    obtain ⟨character, _, newline⟩ := List.mem_flatMap.mp member
    exact newline_not_mem_escapeChar character newline
  simpa [quote] using inside

end Text.Quoted

/-! ## Octets and ends -/

theorem Octets.isPrintable_hexDigits (octets : Octets) :
    IsPrintable octets.hexDigits := by
  refine isPrintable_flatMap ?_
  intro octet _
  exact forall_octet (fun octet => IsPrintable (hexPair octet))
    (by decide +kernel) octet

theorem Exit.isPrintable_text (exit : Exit) :
    IsPrintable exit.text.toList := by
  cases exit with
  | exited code => exact (isLegible_toString_int _).1
  | signaled signal =>
      unfold text
      rw [String.toList_append, isPrintable_append]
      exact ⟨by decide, (isLegible_toString_int _).1⟩
  | timedOut => decide

/-! ## Points -/

namespace Decimal

/-- The characters that numbers of points are written with. -/
def IsPointsCharacter (character : Char) : Prop :=
  character.isDigit = true ∨ character ∈ "-.NaNinf".toList

instance (character : Char) : Decidable (IsPointsCharacter character) :=
  inferInstanceAs (Decidable (_ ∨ _))

/-- Such characters are visible. -/
theorem IsPointsCharacter.visible
    {character : Char} (points : IsPointsCharacter character) :
    32 < character.toNat ∧ character.toNat ≤ 126 := by
  rcases points with digit | sign
  · have bounds := Char.isDigit_iff_toNat.mp digit
    have zero : '0'.toNat = 48 := rfl
    have nine : '9'.toNat = 57 := rfl
    omega
  · have each :
        ("-.NaNinf".toList.all fun sign =>
          32 < sign.toNat && sign.toNat ≤ 126) = true := by
      decide
    simpa using List.all_eq_true.mp each character sign

/-- A text that is written with such characters alone. -/
def IsPointsText (text : String) : Prop :=
  ∀ character ∈ text.toList, IsPointsCharacter character

instance (text : String) : Decidable (IsPointsText text) :=
  List.decidableBAll _ text.toList

theorem IsPointsText.append
    {left right : String}
    (first : IsPointsText left) (second : IsPointsText right) :
    IsPointsText (left ++ right) := by
  unfold IsPointsText
  rw [String.toList_append]
  exact List.forall_mem_append.mpr ⟨first, second⟩

theorem isPointsText_toString (number : Nat) :
    IsPointsText (toString number) := by
  intro character member
  rw [Nat.toString_eq_repr, Nat.toList_repr] at member
  exact Or.inl (Nat.isDigit_of_mem_toDigits (by decide) (by decide) member)

theorem isPointsText_magnitude (magnitude : Magnitude) :
    IsPointsText magnitude.twoPlaces := by
  cases magnitude with
  | notANumber => decide
  | infinite => decide
  | finite significand exponent =>
      unfold Magnitude.twoPlaces hundredthsText
      refine .append (.append (.append ?_ (by decide)) ?_) ?_
      · exact isPointsText_toString _
      · exact isPointsText_toString _
      · exact isPointsText_toString _

theorem isPointsText_twoPlaces (value : Float) :
    IsPointsText (twoPlaces value) := by
  unfold twoPlaces Double.twoPlaces
  refine .append ?_ (isPointsText_magnitude _)
  split
  · decide
  · decide

end Decimal

end ResolverGrader
