import Mathlib.Data.List.Forall2
import ResolverGrader.Proofs.Text.Blank
import ResolverGrader.Proofs.Text.Utf8

/-!
# Texts that differ in letter case

Octets whose ASCII letters change their case decode to characters whose ASCII
letters do, also where the octets are malformed.  Lower-casing makes such texts
equal: no property that it looks at tells the two cases of an ASCII letter
apart, the context of a capital sigma included.

`SameLetters.lowercase_congr` says the second for every text, and
`Utf8.sameLetters_decode` the first.
-/

namespace ResolverGrader

/-! ## Octets -/

namespace Octets

/-- An octet, as its small letter if it is a capital of ASCII. -/
def lower (octet : UInt8) : UInt8 :=
  if 65 ≤ octet ∧ octet ≤ 90 then octet + 32 else octet

/-- Octets that differ at most in the case of ASCII letters. -/
def SameLetters (left right : Octets) : Prop :=
  left.map lower = right.map lower

theorem toNat_lower (octet : UInt8) :
    (lower octet).toNat =
      if 65 ≤ octet.toNat ∧ octet.toNat ≤ 90 then octet.toNat + 32
      else octet.toNat := by
  unfold lower
  by_cases capital : 65 ≤ octet.toNat ∧ octet.toNat ≤ 90
  · rw [if_pos capital, if_pos ⟨capital.1, capital.2⟩, UInt8.toNat_add]
    exact Nat.mod_eq_of_lt (by have := capital.2; simp; omega)
  · rw [if_neg capital, if_neg fun letter => capital ⟨letter.1, letter.2⟩]

theorem lower_eq_newline_iff (octet : UInt8) :
    lower octet = 0x0a ↔ octet = 0x0a := by
  rw [← UInt8.toNat_inj, ← UInt8.toNat_inj, toNat_lower]
  show _ = 10 ↔ _ = 10
  split <;> omega

/-- Letters change their case line by line. -/
theorem lines_map_lower (octets : Octets) :
    lines (octets.map lower) = (lines octets).map (List.map lower) := by
  have some_line : (lines octets).map (List.map lower) ≠ [] :=
    fun none => List.splitOn_ne_nil _ _ (List.map_eq_nil_iff.mp none)
  have whole :
      ∀ line ∈ (lines octets).map (List.map lower), 0x0a ∉ line := by
    intro line member inside
    obtain ⟨original, among, rfl⟩ := List.mem_map.mp member
    obtain ⟨octet, within, lowered⟩ := List.mem_map.mp inside
    rw [(lower_eq_newline_iff octet).mp lowered] at within
    exact newline_not_mem_of_mem_lines among within
  have distributes (left right : Octets) :
      (left ++ [0x0a] ++ right).map lower =
        left.map lower ++ [0x0a] ++ right.map lower := by
    rw [List.map_append, List.map_append]
    rfl
  have joined : octets.map lower =
      List.intercalate [0x0a] ((lines octets).map (List.map lower)) := by
    rw [← Text.apply_intercalate List.map_nil distributes, lines,
      List.intercalate_splitOn]
  rw [lines, joined, List.splitOn_intercalate 0x0a whole some_line]

theorem SameLetters.exists_line
    {left right : Octets} (same : SameLetters left right)
    {line : Octets} (member : line ∈ lines left) :
    ∃ other ∈ lines right, SameLetters line other := by
  have lowered : line.map lower ∈ lines (right.map lower) := by
    rw [← show left.map lower = right.map lower from same, lines_map_lower]
    exact List.mem_map_of_mem member
  rw [lines_map_lower] at lowered
  obtain ⟨other, among, alike⟩ := List.mem_map.mp lowered
  exact ⟨other, among, alike.symm⟩

end Octets

namespace Text

/-! ## Letters -/

theorem toNat_ofNat_of_small
    {code : Nat} (small : code < 128) : (Char.ofNat code).toNat = code := by
  have valid : code.isValidChar := Or.inl (by omega)
  unfold Char.ofNat
  rw [dif_pos valid]
  rfl

/-- A letter of ASCII. -/
def IsLetter (character : Char) : Prop :=
  65 ≤ character.toNat ∧ character.toNat ≤ 90 ∨
    97 ≤ character.toNat ∧ character.toNat ≤ 122

theorem IsLetter.ascii
    {character : Char} (letter : IsLetter character) :
    character.toNat < 128 := by
  rcases letter with capital | small <;> omega

/-- Characters with the same small letter are equal, or both are letters. -/
theorem eq_or_letters
    {left right : Char} (same : left.toLower = right.toLower) :
    left = right ∨ IsLetter left ∧ IsLetter right := by
  have codes := congrArg Char.toNat same
  rw [toNat_toLower, toNat_toLower] at codes
  unfold IsLetter
  by_cases equal : left.toNat = right.toNat
  · exact Or.inl (Char.toNat_inj.mp equal)
  · right
    split at codes <;> split at codes <;> omega

/-- No set of code points that stays clear of the letters holds one. -/
theorem CodeRanges.not_contains_letter
    {ranges : CodeRanges}
    (clear : ∀ range ∈ ranges,
      range.2 < 65 ∨ 122 < range.1 ∨ 90 < range.1 ∧ range.2 < 97)
    {character : Char} (letter : IsLetter character) :
    ranges.contains character = false := by
  rw [Bool.eq_false_iff, ne_eq, CodeRanges.contains_iff]
  rintro ⟨range, listed, fromFirst, toLast⟩
  have outside := clear range listed
  rcases letter with capital | small <;> omega

theorem cased_letter
    {character : Char} (letter : IsLetter character) :
    Unicode.cased.contains character = true := by
  rw [CodeRanges.contains_iff]
  rcases letter with capital | small
  · exact ⟨(0x41, 0x5a), by simp [Unicode.cased], capital⟩
  · exact ⟨(0x61, 0x7a), by simp [Unicode.cased], small⟩

section

variable {left right : Char} (same : left.toLower = right.toLower)
include same

theorem caseIgnorable_congr :
    Unicode.caseIgnorable.contains left =
      Unicode.caseIgnorable.contains right := by
  rcases eq_or_letters same with rfl | ⟨letter, other⟩
  · rfl
  · have clear : ∀ range ∈ Unicode.caseIgnorable,
        range.2 < 65 ∨ 122 < range.1 ∨ 90 < range.1 ∧ range.2 < 97 := by
      decide +kernel
    rw [CodeRanges.not_contains_letter clear letter,
      CodeRanges.not_contains_letter clear other]

theorem cased_congr :
    Unicode.cased.contains left = Unicode.cased.contains right := by
  rcases eq_or_letters same with rfl | ⟨letter, other⟩
  · rfl
  · rw [cased_letter letter, cased_letter other]

theorem isBlank_congr : isBlank left = isBlank right := by
  rcases eq_or_letters same with rfl | ⟨letter, other⟩
  · rfl
  · have clear : ∀ range ∈ whiteSpace,
        range.2 < 65 ∨ 122 < range.1 ∨ 90 < range.1 ∧ range.2 < 97 := by
      decide
    unfold isBlank
    rw [CodeRanges.not_contains_letter clear letter,
      CodeRanges.not_contains_letter clear other]

theorem lowercaseChar_congr : lowercaseChar left = lowercaseChar right := by
  rcases eq_or_letters same with rfl | ⟨letter, other⟩
  · rfl
  · rw [lowercaseChar_of_ascii left letter.ascii,
      lowercaseChar_of_ascii right other.ascii, same]

theorem isSigma_congr : left = 'Σ' ↔ right = 'Σ' := by
  rcases eq_or_letters same with rfl | ⟨letter, other⟩
  · rfl
  · refine iff_of_false ?_ ?_
    · rintro rfl
      exact absurd letter.ascii (by decide)
    · rintro rfl
      exact absurd other.ascii (by decide)

end

/-! ## Texts -/

namespace SameLetters

theorem refl (text : List Char) : SameLetters text text := rfl

theorem cons_iff
    {left right : Char} {first second : List Char} :
    SameLetters (left :: first) (right :: second) ↔
      left.toLower = right.toLower ∧ SameLetters first second := by
  unfold SameLetters
  rw [List.map_cons, List.map_cons, List.cons_eq_cons]

theorem append
    {left right first second : List Char}
    (before : SameLetters left right) (after : SameLetters first second) :
    SameLetters (left ++ first) (right ++ second) := by
  unfold SameLetters at before after ⊢
  rw [List.map_append, List.map_append, before, after]

theorem eq_nil_iff
    {left right : List Char} (same : SameLetters left right) :
    left = [] ↔ right = [] := by
  rw [← List.map_eq_nil_iff (f := Char.toLower), same, List.map_eq_nil_iff]

/--
Texts that differ in letter case are both empty, or begin and go on alike.
-/
theorem exists_cons
    {character : Char} {rest right : List Char}
    (same : SameLetters (character :: rest) right) :
    ∃ other others, right = other :: others ∧
      character.toLower = other.toLower ∧ SameLetters rest others := by
  cases right with
  | nil => cases same
  | cons other others => exact ⟨other, others, rfl, cons_iff.mp same⟩

theorem exists_blank_iff
    {left right : List Char} (same : SameLetters left right)
    (blank : Bool) :
    (∃ character ∈ left, isBlank character = blank) ↔
      ∃ character ∈ right, isBlank character = blank := by
  apply same.exists_mem_iff fun character => isBlank character = blank
  intro character
  have again : character.toLower.toLower = character.toLower := by
    apply Char.toNat_inj.mp
    rw [toNat_toLower, toNat_toLower]
    by_cases capital : 65 ≤ character.toNat ∧ character.toNat ≤ 90
    · rw [if_pos capital, if_neg (by omega)]
    · rw [if_neg capital, if_neg capital]
  rw [isBlank_congr again]

theorem meetsCased_congr
    {left right : List Char} (same : SameLetters left right) :
    meetsCased left = meetsCased right := by
  induction left generalizing right with
  | nil => rw [same.eq_nil_iff.mp rfl]
  | cons character rest ih =>
      obtain ⟨other, others, rfl, alike, later⟩ := same.exists_cons
      have here := ih later
      have sameKind := caseIgnorable_congr alike
      unfold meetsCased at here ⊢
      rw [List.dropWhile_cons, List.dropWhile_cons, sameKind]
      cases Unicode.caseIgnorable.contains other with
      | true => exact here
      | false => exact cased_congr alike

theorem smallSigma_congr
    {before before' after after' : List Char}
    (sameBefore : SameLetters before before')
    (sameAfter : SameLetters after after') :
    smallSigma before after = smallSigma before' after' := by
  unfold smallSigma
  rw [sameBefore.meetsCased_congr, sameAfter.meetsCased_congr]

theorem lowercaseAfter_congr
    {before before' left right : List Char}
    (sameBefore : SameLetters before before')
    (same : SameLetters left right) :
    lowercaseAfter before left = lowercaseAfter before' right := by
  induction left generalizing before before' right with
  | nil => rw [same.eq_nil_iff.mp rfl]; rfl
  | cons character rest ih =>
      obtain ⟨other, others, rfl, alike, later⟩ := same.exists_cons
      have sameRest :=
        ih (cons_iff.mpr ⟨alike, sameBefore⟩) later
      unfold lowercaseAfter
      rw [sameRest, smallSigma_congr sameBefore later,
        lowercaseChar_congr alike, if_congr (isSigma_congr alike) rfl rfl]

/-- Lower-casing removes every difference in the case of ASCII letters. -/
theorem lowercase_congr
    {left right : List Char} (same : SameLetters left right) :
    lowercase left = lowercase right :=
  lowercaseAfter_congr (refl []) same

end SameLetters

/-! ## Octets that are read -/

/--
Octets with the same small letter are equal, or they are characters with the
same one.
-/
theorem eq_or_letters_of_lower_eq
    {left right : UInt8} (same : Octets.lower left = Octets.lower right) :
    left = right ∨
      left.toNat < 128 ∧ right.toNat < 128 ∧
        (Char.ofNat left.toNat).toLower =
          (Char.ofNat right.toNat).toLower := by
  have codes := congrArg UInt8.toNat same
  rw [Octets.toNat_lower, Octets.toNat_lower] at codes
  by_cases equal : left.toNat = right.toNat
  · exact Or.inl (UInt8.toNat_inj.mp equal)
  · have small : left.toNat < 128 ∧ right.toNat < 128 := by
      split at codes <;> split at codes <;> omega
    refine Or.inr ⟨small.1, small.2, ?_⟩
    apply Char.toNat_inj.mp
    rw [toNat_toLower, toNat_toLower, toNat_ofNat_of_small small.1,
      toNat_ofNat_of_small small.2]
    exact codes

namespace Utf8

theorem sameLetters_decodeFrom
    {state : Option Pending}
    (bounded : ∀ pending ∈ state, 0x80 ≤ pending.low)
    {left right : Octets} (same : Octets.SameLetters left right) :
    SameLetters (decodeFrom state left) (decodeFrom state right) := by
  induction left generalizing state right with
  | nil =>
      have nothing : right = [] :=
        List.map_eq_nil_iff.mp (Eq.symm same)
      rw [nothing]
      exact SameLetters.refl _
  | cons octet rest ih =>
      cases right with
      | nil => cases same
      | cons other others =>
          obtain ⟨alike, later⟩ := List.cons_eq_cons.mp same
          rw [decodeFrom_cons, decodeFrom_cons]
          rcases eq_or_letters_of_lower_eq alike with
            rfl | ⟨small, otherSmall, letters⟩
          · exact (SameLetters.refl _).append
              (ih (low_of_step state octet) later)
          · rw [step_of_small bounded small,
              step_of_small bounded otherSmall]
            have sameLetter :
                SameLetters [Char.ofNat octet.toNat]
                  [Char.ofNat other.toNat] :=
              SameLetters.cons_iff.mpr ⟨letters, SameLetters.refl []⟩
            exact ((SameLetters.refl _).append sameLetter).append
              (ih (by simp) later)

/-- Letters that change their case among any octets do so in what is read. -/
theorem sameLetters_decode
    {left right : Octets} (same : Octets.SameLetters left right) :
    SameLetters (decode left) (decode right) :=
  sameLetters_decodeFrom (by simp) same

end Utf8

end Text

end ResolverGrader
