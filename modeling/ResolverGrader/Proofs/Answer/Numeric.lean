import Mathlib.Logic.Basic
import ResolverGrader.Answer
import ResolverGrader.Net.Address
import ResolverGrader.Proofs.Text.Ascii
import ResolverGrader.Proofs.Text.Lines
import ResolverGrader.Proofs.Text.Lowercase

/-!
# Numeric answers

An answer counts as an address when it is made of digits and dots and is not
all dots.  Neither lower-casing nor a final dot has a part in that: digits and
dots have no letter case, and no other character has one of them for its small
letter.

`isNumeric_normalize` says so for every text, and `isNumeric_ipv4` that the
addresses of version four are numeric.
-/

namespace ResolverGrader

open ResolverGrader.Text

/-- Whether a character can stand in a numeric answer. -/
def Text.isDottedDigit (character : Char) : Bool :=
  character = '.' || isDecimal character

/-! ## Letter case -/

namespace Text

theorem isDecimal_iff (character : Char) :
    isDecimal character = true ↔
      48 ≤ character.toNat ∧ character.toNat ≤ 57 := by
  unfold isDecimal
  rw [Bool.and_eq_true, decide_eq_true_eq, decide_eq_true_eq]
  exact Iff.rfl

theorem toNat_of_isDottedDigit
    {character : Char} (dotted : isDottedDigit character = true) :
    46 ≤ character.toNat ∧ character.toNat ≤ 57 := by
  unfold isDottedDigit at dotted
  rw [Bool.or_eq_true, decide_eq_true_eq, isDecimal_iff] at dotted
  rcases dotted with rfl | digit
  · decide
  · omega

/-- Whatever is no digit and no dot stays so in lower case. -/
theorem exists_mem_lowercaseAfter
    {text : List Char}
    (others : ∃ character ∈ text, isDottedDigit character = false)
    (before : List Char) :
    ∃ lowered ∈ lowercaseAfter before text,
      isDottedDigit lowered = false := by
  induction text generalizing before with
  | nil => simp at others
  | cons character rest ih =>
      obtain ⟨piece, present, source, cut⟩ :=
        exists_piece before character rest
      rw [cut]
      obtain ⟨other, member, outside⟩ := others
      rcases List.mem_cons.mp member with rfl | later
      · obtain ⟨lowered, more, rfl⟩ := List.exists_cons_of_ne_nil present
        refine ⟨lowered, List.mem_cons_self, ?_⟩
        rw [Bool.eq_false_iff]
        intro dotted
        have bounds := toNat_of_isDottedDigit dotted
        have same :=
          (source lowered List.mem_cons_self).2 (by omega) (by omega)
        rw [same, outside] at dotted
        exact Bool.false_ne_true dotted
      · obtain ⟨lowered, inside, still⟩ :=
          ih ⟨other, later, outside⟩ (character :: before)
        exact ⟨lowered, List.mem_append_right _ inside, still⟩

/-- Digits and dots have no letter case. -/
theorem lowercase_of_isDottedDigit
    {text : List Char}
    (dotted : ∀ character ∈ text, isDottedDigit character = true) :
    lowercase text = text := by
  have ascii : IsAscii text := by
    intro character member
    have := toNat_of_isDottedDigit (dotted character member)
    omega
  have unchanged :
      ∀ character ∈ text, character.toLower = id character := by
    intro character member
    have bounds := toNat_of_isDottedDigit (dotted character member)
    apply Char.toNat_inj.mp
    rw [toNat_toLower, if_neg (by omega)]
    rfl
  rw [lowercase_of_ascii ascii, List.map_congr_left unchanged, List.map_id]

end Text

/-! ## Numeric answers -/

namespace Answer

/-- A numeric answer is made of digits and dots, and not of dots alone. -/
theorem isNumeric_iff (answer : String) :
    isNumeric answer = true ↔
      (∃ character ∈ answer.toList, character ≠ '.') ∧
        ∀ character ∈ answer.toList, isDottedDigit character = true := by
  unfold isNumeric isDottedDigit
  simp only [Bool.and_eq_true, decide_eq_true_eq, ne_eq,
    List.filter_eq_nil_iff, List.all_eq_true, List.mem_filter,
    Bool.or_eq_true, not_forall, not_not]
  refine and_congr ?_ ?_
  · simp
  · refine forall_congr' fun character => ?_
    by_cases dot : character = '.' <;> simp [dot]

theorem endDot_of_isDottedDigit
    {answer : List Char} (present : answer ≠ [])
    (dotted : ∀ character ∈ answer, isDottedDigit character = true) :
    endDot answer = answer := by
  have last := dotted _ (List.getLast_mem present)
  simp only [isDottedDigit, Bool.or_eq_true, decide_eq_true_eq] at last
  unfold endDot
  rw [List.getLast?_eq_some_getLast present]
  exact if_pos last

theorem subset_endDot (answer : List Char) : answer ⊆ endDot answer := by
  unfold endDot
  split
  · split
    · exact List.Subset.refl answer
    · exact List.subset_append_left answer ['.']
  · rename_i ending
    rw [List.getLast?_eq_none_iff.mp ending]
    exact List.nil_subset _

/-- An answer and its normal form are both numeric or both not. -/
theorem isNumeric_normalize (answer : String) :
    isNumeric (normalize answer) = isNumeric answer := by
  rw [Bool.eq_iff_iff, isNumeric_iff, isNumeric_iff]
  unfold normalize normalizeChars
  rw [String.toList_ofList]
  by_cases dotted :
      ∀ character ∈ answer.toList, isDottedDigit character = true
  · rw [lowercase_of_isDottedDigit dotted]
    by_cases empty : answer.toList = []
    · simp [empty, endDot]
    · rw [endDot_of_isDottedDigit empty dotted]
  · refine iff_of_false ?_ fun numeric => dotted numeric.2
    rintro ⟨_, allDotted⟩
    simp only [not_forall, Bool.not_eq_true] at dotted
    obtain ⟨character, member, other⟩ := dotted
    obtain ⟨lowered, inside, still⟩ :=
      exists_mem_lowercaseAfter ⟨character, member, other⟩ []
    have named := allDotted lowered (subset_endDot _ inside)
    rw [still] at named
    exact Bool.false_ne_true named

theorem isNumeric_ipv4 (address : Net.Ipv4) :
    isNumeric (String.ofList address.characters) = true := by
  have digits (octet : UInt8) :
      ∀ character ∈ decimalDigits octet.toNat,
        isDecimal character = true := by
    intro character member
    exact Nat.isDigit_of_mem_toDigits (by decide) (by decide) member
  rw [isNumeric_iff, String.toList_ofList]
  constructor
  · -- Every octet has a digit, and that is no dot.
    have some_digit : decimalDigits address.first.toNat ≠ [] :=
      Nat.toDigits_ne_nil
    have inside := List.head_mem some_digit
    generalize (decimalDigits _).head some_digit = digit at inside
    refine ⟨digit, ?_, ?_⟩
    · unfold Net.Ipv4.characters Net.Ipv4.octets
      rw [List.map_cons, List.map_cons, List.intercalate_cons_cons]
      exact List.mem_append_left _ (List.mem_append_left _ inside)
    · rintro rfl
      exact absurd (digits address.first '.' inside) (by decide)
  · refine forall_mem_intercalate
      (List.forall_mem_singleton.mpr (by decide)) ?_
    intro part member character inside
    obtain ⟨octet, _, rfl⟩ := List.mem_map.mp member
    rw [isDottedDigit, digits octet character inside, Bool.or_true]

end Answer

end ResolverGrader
