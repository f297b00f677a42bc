import Mathlib.Data.List.DropRight
import ResolverGrader.Text.Split

/-!
# What trimming leaves

A text is blank if white space is all there is to it, and only then does
trimming leave nothing.  Otherwise it leaves the text between the white space
around it, which has none at either end.
-/

namespace ResolverGrader.Text

theorem trimEnd_eq_nil_iff (text : List Char) :
    trimEnd text = [] ↔ ∀ character ∈ text, isBlank character = true := by
  unfold trimEnd
  rw [List.reverse_eq_nil_iff, List.dropWhile_eq_nil_iff]
  simp only [List.mem_reverse]

/--
Trimming leaves something of a text exactly if there is something to see.
-/
theorem trim_ne_nil_iff (text : List Char) :
    trim text ≠ [] ↔ ∃ character ∈ text, isBlank character = false := by
  unfold trim
  rw [ne_eq, trimEnd_eq_nil_iff]
  constructor
  · intro someVisible
    by_contra noneVisible
    simp only [not_exists, not_and, Bool.not_eq_false] at noneVisible
    apply someVisible
    intro character member
    exact noneVisible character
      ((List.dropWhile_suffix isBlank).subset member)
  · rintro ⟨character, member, visible⟩ allBlank
    rw [← List.takeWhile_append_dropWhile (p := isBlank) (l := text)]
      at member
    rcases List.mem_append.mp member with inFront | behind
    · have blank := List.mem_takeWhile_imp inFront
      simp [visible] at blank
    · have blank := allBlank character behind
      simp [visible] at blank

/-! ## White space around a text -/

theorem trimEnd_append_of_blank
    {after : List Char}
    (blank : ∀ character ∈ after, isBlank character = true)
    (text : List Char) : trimEnd (text ++ after) = trimEnd text := by
  unfold trimEnd
  rw [List.reverse_append, List.dropWhile_append_of_pos]
  exact fun character member => blank character (List.mem_reverse.mp member)

/-- White space put around a text does not outlast trimming. -/
theorem trim_append_append_of_blank
    {before after : List Char}
    (blankBefore : ∀ character ∈ before, isBlank character = true)
    (blankAfter : ∀ character ∈ after, isBlank character = true)
    (text : List Char) : trim (before ++ text ++ after) = trim text := by
  have noneAfter : after.dropWhile isBlank = [] :=
    List.dropWhile_eq_nil_iff.mpr blankAfter
  unfold trim
  rw [List.append_assoc, List.dropWhile_append_of_pos blankBefore,
    List.dropWhile_append, noneAfter]
  split
  · next allBlank => rw [List.isEmpty_iff.mp allBlank]
  · exact trimEnd_append_of_blank blankAfter _

/-- Nothing but white space goes when a text is trimmed. -/
theorem exists_around_trim (text : List Char) :
    ∃ before after,
      (∀ character ∈ before, isBlank character = true) ∧
        (∀ character ∈ after, isBlank character = true) ∧
          text = before ++ trim text ++ after := by
  refine ⟨text.takeWhile isBlank,
    (text.dropWhile isBlank).rtakeWhile isBlank, ?_, ?_, ?_⟩
  · exact fun _ member => List.mem_takeWhile_imp member
  · exact fun _ member => List.mem_rtakeWhile_imp member
  · have atEnd :
        trim text ++ (text.dropWhile isBlank).rtakeWhile isBlank =
          text.dropWhile isBlank :=
      List.rdropWhile_append_rtakeWhile
    rw [List.append_assoc, atEnd, List.takeWhile_append_dropWhile]

theorem trim_subset (text : List Char) : trim text ⊆ text := by
  intro character member
  obtain ⟨before, after, _, _, whole⟩ := exists_around_trim text
  rw [whole]
  exact List.mem_append_left after (List.mem_append_right before member)

/-- What is seen first in a text is not trimmed off. -/
theorem head?_trim_of_visible
    {first : Char} (visible : isBlank first = false) (rest : List Char) :
    (trim (first :: rest)).head? = some first := by
  have front : (first :: rest).dropWhile isBlank = first :: rest :=
    List.dropWhile_cons_of_neg (by simp [visible])
  have kept : trim (first :: rest) <+: first :: rest := by
    unfold trim
    rw [front]
    exact List.rdropWhile_prefix isBlank _
  cases seen : trim (first :: rest) with
  | nil =>
      refine absurd seen ((trim_ne_nil_iff _).mpr ?_)
      exact ⟨first, List.mem_cons_self, visible⟩
  | cons head tail =>
      rw [seen] at kept
      rw [(List.cons_prefix_cons.mp kept).1]
      rfl

/-! ## Trimmed texts -/

/-- No white space stands at either end. -/
structure IsTrimmed (text : List Char) : Prop where
  begins : ∀ character ∈ text.head?, isBlank character = false
  ends : ∀ character ∈ text.getLast?, isBlank character = false

theorem isTrimmed_trim (text : List Char) : IsTrimmed (trim text) where
  begins := by
    intro character first
    have visible := List.head?_dropWhile_not isBlank text
    have kept : (text.dropWhile isBlank).head? = some character := by
      obtain ⟨rest, whole⟩ :=
        List.rdropWhile_prefix isBlank (text.dropWhile isBlank)
      have front : trim text ++ rest = text.dropWhile isBlank := whole
      rw [← front, List.head?_append, first]
      rfl
    rwa [kept] at visible
  ends := by
    intro character last
    have visible :=
      List.head?_dropWhile_not isBlank (text.dropWhile isBlank).reverse
    unfold trim trimEnd at last
    rw [List.getLast?_reverse] at last
    rwa [last] at visible

theorem trim_of_isTrimmed
    {text : List Char} (trimmed : IsTrimmed text) : trim text = text := by
  have front : text.dropWhile isBlank = text := by
    rw [List.dropWhile_eq_self_iff]
    intro nonempty
    have first : text.head? = some text[0] := by
      rw [List.head?_eq_getElem?, List.getElem?_eq_getElem nonempty]
    simp [trimmed.begins _ first]
  have back : text.rdropWhile isBlank = text := by
    rw [List.rdropWhile_eq_self_iff]
    intro nonempty
    have last := List.getLast?_eq_some_getLast nonempty
    simp [trimmed.ends _ last]
  unfold trim
  rw [front]
  exact back

theorem trim_of_not_blank
    {text : List Char}
    (visible : ∀ character ∈ text, isBlank character = false) :
    trim text = text := by
  apply trim_of_isTrimmed
  constructor
  · exact fun character first => visible character (List.mem_of_head? first)
  · exact fun character last =>
      visible character (List.mem_of_getLast? last)

/-- No visible character of ASCII is white space. -/
theorem isBlank_of_visible
    {character : Char} (visible : 32 < character.toNat)
    (ascii : character.toNat ≤ 126) : isBlank character = false := by
  rw [Bool.eq_false_iff, isBlank, ne_eq, CodeRanges.contains_iff]
  rintro ⟨range, listed, fromFirst, toLast⟩
  have apart : ∀ range ∈ whiteSpace, range.2 ≤ 32 ∨ 127 ≤ range.1 := by
    decide
  have outside := apart range listed
  omega

end ResolverGrader.Text
