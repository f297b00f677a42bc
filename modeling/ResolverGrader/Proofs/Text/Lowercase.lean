import Mathlib.Data.List.Basic
import ResolverGrader.Text.Lowercase

/-!
# What lower-casing leaves

Every character that lower-casing leaves is its own small letter, so nothing is
left to do a second time.  Characters before the small letters, such as dots
and backslashes, come from themselves alone and stay where they are.

`lowercase_lowercase` says the first for every text, and `lowercase_append_dot`
that a final dot is no part of any word: a capital sigma before it still ends
one.
-/

namespace ResolverGrader.Text

/-! ## Runs of capitals -/

/-- A number that is no code point stands for the first character. -/
theorem toNat_ofNat_cases (code : Nat) :
    (Char.ofNat code).toNat = code ∨ (Char.ofNat code).toNat = 0 := by
  unfold Char.ofNat
  by_cases valid : code.isValidChar
  · rw [dif_pos valid]
    exact Or.inl rfl
  · rw [dif_neg valid]
    exact Or.inr rfl

namespace Unicode

/-- The small letter at a distance from the first capital of a run. -/
def CaseRun.small (run : CaseRun) (capital : Nat) : Nat :=
  (capital + run.offset).toNat

/--
Whether no small letter of the one run is a capital of the other: they lie
apart, or between each other.
-/
def CaseRun.isApart (run other : CaseRun) : Bool :=
  Nat.blt (run.small run.last) other.first ||
    Nat.blt other.last (run.small run.first) ||
      (Nat.beq run.stride 2 || Nat.beq run.first run.last) &&
        Nat.beq other.stride 2 &&
          Nat.beq ((run.small run.first - other.first) % 2) 1

theorem CaseRun.isApart_iff (run other : CaseRun) :
    run.isApart other = true ↔
      run.small run.last < other.first ∨
        other.last < run.small run.first ∨
          (run.stride = 2 ∨ run.first = run.last) ∧ other.stride = 2 ∧
            (run.small run.first - other.first) % 2 = 1 := by
  simp only [isApart, Bool.or_eq_true, Bool.and_eq_true, Nat.blt_eq,
    Nat.beq_eq, or_assoc, and_assoc]

theorem CaseRun.contains_iff (run : CaseRun) (code : Nat) :
    run.contains code = true ↔
      run.first ≤ code ∧ code ≤ run.last ∧
        (code - run.first) % run.stride = 0 := by
  simp [contains, and_assoc]

/--
A capital of the one run has a small letter that is no capital of the other.
-/
theorem CaseRun.not_contains_of_isApart
    {run other : CaseRun} (apart : run.isApart other = true)
    {capital small : Nat} (inside : run.contains capital = true)
    (moved : (small : Int) = capital + run.offset) :
    other.contains small = false := by
  rw [Bool.eq_false_iff]
  intro alsoInside
  obtain ⟨fromFirst, toLast, inStride⟩ :=
    (run.contains_iff capital).mp inside
  obtain ⟨fromOther, toOther, inOtherStride⟩ :=
    (other.contains_iff small).mp alsoInside
  rw [isApart_iff] at apart
  unfold CaseRun.small at apart
  rcases apart with below | above | ⟨spaced, otherSpaced, odd⟩
  · omega
  · omega
  · rw [otherSpaced] at inOtherStride
    rcases spaced with byTwo | single
    · rw [byTwo] at inStride
      omega
    · omega

theorem all_isApart_lowercaseRuns :
    (lowercaseRuns.all fun run => lowercaseRuns.all run.isApart) =
      true := by
  decide +kernel

/-- `İ`, the capital that stands in no run, is no small letter either. -/
theorem isApart_dotted_of_mem_lowercaseRuns :
    ∀ run ∈ lowercaseRuns,
      run.isApart ⟨0x130, 0x130, 1, 0⟩ = true := by
  decide +kernel

theorem first_pos_of_mem_lowercaseRuns :
    ∀ run ∈ lowercaseRuns, 0 < run.first := by
  decide +kernel

/--
All small letters come after the accent, the last character before those of
ASCII.
-/
theorem lowercaseRuns_after_accent :
    ∀ run ∈ lowercaseRuns, 96 < (run.first : Int) + run.offset := by
  decide +kernel

theorem CaseRun.not_contains_toNat
    {run other : CaseRun} (apart : run.isApart other = true)
    (afterFirst : 0 < other.first)
    {capital : Nat} (inside : run.contains capital = true)
    {code : Nat} (moved : (code : Int) = capital + run.offset) :
    other.contains (Char.ofNat code).toNat = false := by
  rcases toNat_ofNat_cases code with valid | first
  · rw [valid]
    exact not_contains_of_isApart apart inside moved
  · rw [first, Bool.eq_false_iff]
    intro zeroInside
    have fromFirst := ((other.contains_iff 0).mp zeroInside).1
    omega

end Unicode

/-! ## One character -/

/-- A character that is its own small letter. -/
def IsSettled (character : Char) : Prop :=
  lowercaseChar character = [character]

instance (character : Char) : Decidable (IsSettled character) :=
  inferInstanceAs (Decidable (_ = _))

/-- Where the small letter of a capital in a run is. -/
theorem exists_code_of_contains
    {run : Unicode.CaseRun} (listed : run ∈ Unicode.lowercaseRuns)
    {capital : Nat} (inside : run.contains capital = true) :
    ∃ code : Nat, (code : Int) = capital + run.offset ∧ 96 < code ∧
      (capital + run.offset : Int).toNat = code := by
  have after := Unicode.lowercaseRuns_after_accent run listed
  have fromFirst := ((run.contains_iff capital).mp inside).1
  refine ⟨(capital + run.offset : Int).toNat, ?_, ?_, rfl⟩
  · omega
  · omega

theorem isSettled_of_no_capital
    {character : Char} (notDotted : character ≠ '\u0130')
    (noCapital :
      ∀ run ∈ Unicode.lowercaseRuns,
        run.contains character.toNat = false) :
    IsSettled character := by
  have notFound :
      Unicode.lowercaseRuns.find? (·.contains character.toNat) = none := by
    rw [List.find?_eq_none]
    intro run listed
    simp [noCapital run listed]
  unfold IsSettled lowercaseChar
  rw [if_neg notDotted, notFound]

/--
A small letter is `i` with its dot, the small letter of a run, or the character
itself.
-/
theorem mem_lowercaseChar_cases
    {small character : Char} (member : small ∈ lowercaseChar character) :
    (small = 'i' ∨ small = '\u0307') ∨
      (∃ run ∈ Unicode.lowercaseRuns,
        ∃ code : Nat, run.contains character.toNat = true ∧
          (code : Int) = character.toNat + run.offset ∧ 96 < code ∧
            small = Char.ofNat code) ∨
      small = character ∧ IsSettled character := by
  unfold lowercaseChar at member
  split at member
  · exact Or.inl (by simpa using member)
  · next notDotted =>
    split at member
    · next run found =>
      have listed := List.mem_of_find?_eq_some found
      have inside := List.find?_some found
      obtain ⟨code, moved, after, shown⟩ :=
        exists_code_of_contains listed inside
      rw [List.mem_singleton, shown] at member
      exact Or.inr (Or.inl
        ⟨run, listed, code, inside, moved, after, member⟩)
    · next notFound =>
      refine Or.inr (Or.inr ⟨List.mem_singleton.mp member, ?_⟩)
      apply isSettled_of_no_capital notDotted
      intro run listed
      simpa using List.find?_eq_none.mp notFound run listed

theorem isSettled_of_mem_lowercaseChar
    {small character : Char} (member : small ∈ lowercaseChar character) :
    IsSettled small := by
  rcases mem_lowercaseChar_cases member with
    (rfl | rfl) | ⟨run, listed, code, inside, moved, _, rfl⟩ |
      ⟨rfl, settled⟩
  · decide +kernel
  · decide +kernel
  · apply isSettled_of_no_capital
    · intro dotted
      have outside :=
        Unicode.CaseRun.not_contains_toNat
          (Unicode.isApart_dotted_of_mem_lowercaseRuns run listed)
          (by decide) inside moved
      rw [dotted] at outside
      exact absurd outside (by decide)
    · intro other alsoListed
      have allApart := List.all_eq_true.mp
        Unicode.all_isApart_lowercaseRuns run listed
      exact Unicode.CaseRun.not_contains_toNat
        (List.all_eq_true.mp allApart other alsoListed)
        (Unicode.first_pos_of_mem_lowercaseRuns other alsoListed)
        inside moved
  · exact settled

/-- A character up to the accent is the small letter of no other character. -/
theorem eq_of_mem_lowercaseChar
    {small character : Char} (visible : 0 < small.toNat)
    (upToAccent : small.toNat ≤ 96)
    (member : small ∈ lowercaseChar character) :
    small = character := by
  rcases mem_lowercaseChar_cases member with
    (rfl | rfl) | ⟨_, _, code, _, _, after, rfl⟩ | ⟨same, _⟩
  · exact absurd upToAccent (by decide)
  · exact absurd upToAccent (by decide)
  · rcases toNat_ofNat_cases code with valid | first
    · omega
    · omega
  · exact same

theorem lowercaseChar_ne_nil (character : Char) :
    lowercaseChar character ≠ [] := by
  unfold lowercaseChar
  split
  · simp
  · split <;> simp

theorem isSettled_smallSigma (before after : List Char) :
    IsSettled (smallSigma before after) := by
  unfold smallSigma
  split
  · decide +kernel
  · decide +kernel

/-! ## Whole texts -/

/-- What becomes of a character inside a text. -/
theorem exists_piece
    (before : List Char) (character : Char) (rest : List Char) :
    ∃ piece, piece ≠ [] ∧
      (∀ small ∈ piece,
        IsSettled small ∧
          (0 < small.toNat → small.toNat ≤ 96 → small = character)) ∧
      lowercaseAfter before (character :: rest) =
        piece ++ lowercaseAfter (character :: before) rest := by
  by_cases sigma : character = 'Σ'
  · refine ⟨[smallSigma before rest], List.cons_ne_nil _ _, ?_,
      by simp [lowercaseAfter, sigma]⟩
    rw [List.forall_mem_singleton]
    refine ⟨isSettled_smallSigma before rest, ?_⟩
    unfold smallSigma
    intro _ upToAccent
    split at upToAccent
    · exact absurd upToAccent (by decide)
    · exact absurd upToAccent (by decide)
  · refine ⟨lowercaseChar character, lowercaseChar_ne_nil character, ?_,
      lowercaseAfter_cons_of_ne before rest sigma⟩
    intro small member
    exact ⟨isSettled_of_mem_lowercaseChar member,
      fun visible upToAccent =>
        eq_of_mem_lowercaseChar visible upToAccent member⟩

theorem isSettled_of_mem_lowercaseAfter
    {before text : List Char} {small : Char}
    (member : small ∈ lowercaseAfter before text) : IsSettled small := by
  induction text generalizing before with
  | nil => cases member
  | cons character rest ih =>
      obtain ⟨piece, _, settled, cut⟩ := exists_piece before character rest
      rw [cut] at member
      rcases List.mem_append.mp member with here | later
      · exact (settled small here).1
      · exact ih later

/-- Settled characters are left as they are, wherever they stand. -/
theorem lowercaseAfter_of_isSettled
    {text : List Char} (settled : ∀ character ∈ text, IsSettled character)
    (before : List Char) : lowercaseAfter before text = text := by
  induction text generalizing before with
  | nil => rfl
  | cons character rest ih =>
      obtain ⟨here, later⟩ := List.forall_mem_cons.mp settled
      have notSigma : character ≠ 'Σ' := by
        rintro rfl
        exact absurd here (by decide +kernel)
      rw [lowercaseAfter_cons_of_ne before rest notSigma, here, ih later]
      rfl

/-- Lower-casing a second time changes nothing. -/
@[simp]
theorem lowercase_lowercase (text : List Char) :
    lowercase (lowercase text) = lowercase text :=
  lowercaseAfter_of_isSettled
    (fun _ member => isSettled_of_mem_lowercaseAfter member) []

theorem lowercase_ne_nil {text : List Char} (nonempty : text ≠ []) :
    lowercase text ≠ [] := by
  obtain ⟨character, rest, rfl⟩ := List.exists_cons_of_ne_nil nonempty
  obtain ⟨piece, present, _, cut⟩ := exists_piece [] character rest
  unfold lowercase
  rw [cut]
  simp [present]

section

variable {mark : Char} (visible : 0 < mark.toNat)
variable (upToAccent : mark.toNat ≤ 96)
include visible upToAccent

/--
A character up to the accent stands in the result only if it stood in the text.
-/
theorem mem_of_mem_lowercaseAfter
    {before text : List Char}
    (member : mark ∈ lowercaseAfter before text) : mark ∈ text := by
  induction text generalizing before with
  | nil => cases member
  | cons character rest ih =>
      obtain ⟨piece, _, source, cut⟩ := exists_piece before character rest
      rw [cut] at member
      rcases List.mem_append.mp member with here | later
      · have same := (source mark here).2 visible upToAccent
        exact List.mem_cons.mpr (Or.inl same)
      · exact List.mem_cons_of_mem _ (ih later)

theorem getLast?_of_getLast?_lowercaseAfter
    {before text : List Char}
    (last : (lowercaseAfter before text).getLast? = some mark) :
    text.getLast? = some mark := by
  induction text generalizing before with
  | nil => cases last
  | cons character rest ih =>
      obtain ⟨piece, present, source, cut⟩ :=
        exists_piece before character rest
      rw [cut] at last
      cases rest with
      | nil =>
          have inside := List.mem_of_getLast? last
          rw [lowercaseAfter, List.append_nil] at inside
          have same := (source mark inside).2 visible upToAccent
          rw [same]
          rfl
      | cons next more =>
          obtain ⟨later, laterPresent, _, laterCut⟩ :=
            exists_piece (character :: before) next more
          have nonempty :
              lowercaseAfter (character :: before) (next :: more) ≠ [] := by
            rw [laterCut]
            simp [laterPresent]
          rw [List.getLast?_append_of_ne_nil _ nonempty] at last
          rw [List.getLast?_cons_cons]
          exact ih last

end

/-! ## A final dot -/

/-- A dot behind a text is passed over or meets no cased character. -/
theorem meetsCased_append_dot (text : List Char) :
    meetsCased (text ++ ['.']) = meetsCased text := by
  unfold meetsCased
  rw [List.dropWhile_append]
  cases text.dropWhile Unicode.caseIgnorable.contains with
  | nil => decide
  | cons character rest => rfl

theorem lowercaseAfter_append_dot (before text : List Char) :
    lowercaseAfter before (text ++ ['.']) =
      lowercaseAfter before text ++ ['.'] := by
  induction text generalizing before with
  | nil =>
      have dot : lowercaseChar '.' = ['.'] := by decide +kernel
      rw [List.nil_append, lowercaseAfter_cons_of_ne _ _ (by decide), dot]
      rfl
  | cons character rest ih =>
      have sameSigma :
          smallSigma before (rest ++ ['.']) = smallSigma before rest := by
        unfold smallSigma
        rw [meetsCased_append_dot]
      rw [List.cons_append]
      unfold lowercaseAfter
      rw [sameSigma, ih, List.append_assoc]

theorem lowercase_append_dot (text : List Char) :
    lowercase (text ++ ['.']) = lowercase text ++ ['.'] :=
  lowercaseAfter_append_dot [] text

end ResolverGrader.Text
