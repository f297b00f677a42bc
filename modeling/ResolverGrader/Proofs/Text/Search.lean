import Mathlib.Data.List.TakeWhile
import ResolverGrader.Text.Split

/-!
# What a search finds

Two searches said without the functions that carry them out: what follows the
last occurrence of a marker in a text, and the first word of a text.
-/

namespace ResolverGrader.Text

/-! ## The last occurrence of a marker -/

/--
What follows a marker in a text where the marker does not occur any later.
-/
structure FollowsLast (marker text rest : List Char) : Prop where
  occurs : ∃ before, before ++ marker ++ rest = text
  last :
    ∀ before after, before ++ marker ++ after = text →
      rest.length ≤ after.length

namespace FollowsLast

variable {marker text rest : List Char}

theorem isSuffix (follows : FollowsLast marker text rest) : rest <:+ text := by
  obtain ⟨before, whole⟩ := follows.occurs
  exact ⟨before ++ marker, whole⟩

/-- There is only one last occurrence. -/
theorem unique
    {other : List Char} (follows : FollowsLast marker text rest)
    (alsoFollows : FollowsLast marker text other) : rest = other := by
  obtain ⟨before, whole⟩ := follows.occurs
  obtain ⟨otherBefore, alsoWhole⟩ := alsoFollows.occurs
  have longer := follows.last otherBefore other alsoWhole
  have shorter := alsoFollows.last before rest whole
  exact (List.suffix_of_suffix_length_le follows.isSuffix
    alsoFollows.isSuffix longer).eq_of_length
      (Nat.le_antisymm longer shorter)

/-- A character in front adds no later occurrence. -/
theorem cons
    (follows : FollowsLast marker text rest) (character : Char) :
    FollowsLast marker (character :: text) rest := by
  obtain ⟨before, whole⟩ := follows.occurs
  refine ⟨⟨character :: before, by simp [← whole]⟩, ?_⟩
  intro otherBefore after alsoWhole
  cases otherBefore with
  | nil =>
      have lengths := congrArg List.length whole
      have otherLengths := congrArg List.length alsoWhole
      simp only [List.length_append, List.length_cons, List.length_nil]
        at lengths otherLengths
      omega
  | cons head tail =>
      exact follows.last tail after (List.cons.inj alsoWhole).2

end FollowsLast

section

variable {marker : List Char} (nonempty : marker ≠ [])
include nonempty

theorem afterLast?_eq_none_iff (text : List Char) :
    afterLast? marker text = none ↔ ¬ marker <:+: text := by
  induction text with
  | nil => simp [afterLast?, nonempty]
  | cons character rest ih =>
      rw [List.infix_cons_iff, not_or]
      simp only [afterLast?]
      cases found : afterLast? marker rest with
      | some tail =>
          have occurs : marker <:+: rest := by
            rw [← not_not (a := marker <:+: rest), ← ih, found]
            simp
          simp [occurs]
      | none =>
          have absent := ih.mp found
          simp [absent, List.isPrefixOf_iff_prefix]

theorem followsLast_of_afterLast?
    {text rest : List Char} (found : afterLast? marker text = some rest) :
    FollowsLast marker text rest := by
  induction text generalizing rest with
  | nil => simp [afterLast?] at found
  | cons character text ih =>
      simp only [afterLast?] at found
      split at found
      · next tail later =>
          cases found
          exact (ih later).cons character
      · next noLater =>
          split at found
          · next here =>
              obtain ⟨after, whole⟩ := List.isPrefixOf_iff_prefix.mp here
              obtain rfl : after = rest := by
                rw [← whole, List.drop_left] at found
                exact Option.some.inj found
              refine ⟨⟨[], whole⟩, ?_⟩
              intro before other alsoWhole
              cases before with
              | nil =>
                  have same := whole.trans alsoWhole.symm
                  exact Nat.le_of_eq
                    (congrArg List.length (List.append_cancel_left same))
              | cons head tail =>
                  have inside := (List.cons.inj alsoWhole).2
                  exact absurd ⟨tail, other, inside⟩
                    ((afterLast?_eq_none_iff nonempty text).mp noLater)
          · cases found

/--
The search finds what follows the last occurrence, if there is any occurrence.
-/
theorem afterLast?_eq_some_iff {text rest : List Char} :
    afterLast? marker text = some rest ↔ FollowsLast marker text rest := by
  constructor
  · exact followsLast_of_afterLast? nonempty
  · intro follows
    obtain ⟨before, whole⟩ := follows.occurs
    cases found : afterLast? marker text with
    | none =>
        exact absurd ⟨before, rest, whole⟩
          ((afterLast?_eq_none_iff nonempty text).mp found)
    | some tail =>
        rw [follows.unique (followsLast_of_afterLast? nonempty found)]

end

/-! ## The first word -/

/--
A word with nothing but white space in front of it, and white space or nothing
behind it.
-/
structure IsFirstWord (text word : List Char) : Prop where
  nonempty : word ≠ []
  visible : ∀ character ∈ word, isBlank character = false
  stands :
    ∃ blanks rest, blanks ++ word ++ rest = text ∧
      (∀ character ∈ blanks, isBlank character = true) ∧
      ∀ character ∈ rest.head?, isBlank character = true

theorem firstWord_eq_iff
    {text word : List Char} :
    firstWord text = word ∧ word ≠ [] ↔ IsFirstWord text word := by
  constructor
  · rintro ⟨rfl, nonempty⟩
    refine ⟨nonempty, ?_, text.takeWhile isBlank,
      (text.dropWhile isBlank).dropWhile fun character =>
        !isBlank character, ?_, ?_, ?_⟩
    · intro character member
      simpa using List.mem_takeWhile_imp member
    · unfold firstWord
      rw [List.append_assoc, List.takeWhile_append_dropWhile,
        List.takeWhile_append_dropWhile]
    · exact fun character => List.mem_takeWhile_imp
    · intro character first
      have stopped := List.head?_dropWhile_not
        (fun character => !isBlank character) (text.dropWhile isBlank)
      rw [Option.mem_def.mp first] at stopped
      simpa using stopped
  · rintro ⟨nonempty, visible, blanks, rest, rfl, blank, stops⟩
    refine ⟨?_, nonempty⟩
    obtain ⟨head, tail, rfl⟩ := List.exists_cons_of_ne_nil nonempty
    have headVisible : ¬ isBlank head = true := by
      simp [visible head List.mem_cons_self]
    have restOut :
        (rest.takeWhile fun character => !isBlank character) = [] := by
      cases rest with
      | nil => rfl
      | cons next more => simp [stops next rfl]
    unfold firstWord
    rw [List.append_assoc, List.dropWhile_append_of_pos blank,
      List.cons_append, List.dropWhile_cons_of_neg headVisible,
      ← List.cons_append, List.takeWhile_append_of_pos, restOut,
      List.append_nil]
    intro character member
    simp [visible character member]

end ResolverGrader.Text
