import ResolverGrader.Proofs.Text.Ascii
import ResolverGrader.Proofs.Text.Lines
import ResolverGrader.Proofs.Text.Lowercase

/-!
# ASCII among other octets

Whatever octets stand before it, well-formed or not, an octet of ASCII is read
as the character it is: it closes a character that is still open and is no part
of it.  Nor does a longer character ever have a code of ASCII, so line feeds
are read where they stand and nowhere else.

`pieces_decode` says that lines can be cut before or after decoding.
-/

namespace ResolverGrader

/-! ## Lines of octets -/

/-- What stands between the line feeds of some octets. -/
def Octets.lines (octets : Octets) : List Octets :=
  octets.splitOn 0x0a

theorem Octets.newline_not_mem_of_mem_lines
    {octets line : Octets} (member : line ∈ octets.lines) :
    0x0a ∉ line := by
  induction size : octets.length using Nat.strongRecOn
    generalizing octets with
  | ind size ih =>
      unfold lines at member
      by_cases cut : 0x0a ∈ octets
      · obtain ⟨first, rest, rfl, whole⟩ := List.eq_append_cons_of_mem cut
        rw [List.splitOn_append_cons_self, List.splitOn_eq_singleton whole,
          List.singleton_append] at member
        rcases List.mem_cons.mp member with rfl | later
        · exact whole
        · rw [List.length_append, List.length_cons] at size
          exact ih rest.length (by omega) later rfl
      · rw [List.splitOn_eq_singleton cut] at member
        rwa [List.mem_singleton.mp member]

namespace Text.Utf8

/-! ## One octet -/

theorem opening_of_small
    {octet : UInt8} (small : octet.toNat < 128) :
    opening octet = ([Char.ofNat octet.toNat], none) := by
  unfold opening
  exact if_pos small

/-- An octet of ASCII closes whatever is open and is itself a character. -/
theorem step_of_small
    {state : Option Pending}
    (bounded : ∀ pending ∈ state, 0x80 ≤ pending.low)
    {octet : UInt8} (small : octet.toNat < 128) :
    step state octet =
      (decodeFrom state [] ++ [Char.ofNat octet.toNat], none) := by
  cases state with
  | none => exact opening_of_small small
  | some pending =>
      have low := bounded pending rfl
      have outside :
          ¬ (pending.low ≤ octet.toNat ∧ octet.toNat ≤ pending.high) := by
        omega
      simp [step, continuing, outside, opening_of_small small, decodeFrom]

theorem decodeFrom_append_of_small
    {state : Option Pending}
    (bounded : ∀ pending ∈ state, 0x80 ≤ pending.low)
    (octets : Octets) {octet : UInt8} (small : octet.toNat < 128) :
    decodeFrom state (octets ++ [octet]) =
      decodeFrom state octets ++ [Char.ofNat octet.toNat] := by
  induction octets generalizing state with
  | nil =>
      rw [List.nil_append, decodeFrom_cons, step_of_small bounded small]
      simp [decodeFrom]
  | cons first rest ih =>
      rw [List.cons_append, decodeFrom_cons, decodeFrom_cons,
        ih (low_of_step state first), List.append_assoc]

theorem decode_append_of_small
    (octets : Octets) {octet : UInt8} (small : octet.toNat < 128) :
    decode (octets ++ [octet]) =
      decode octets ++ [Char.ofNat octet.toNat] :=
  decodeFrom_append_of_small (by simp) octets small

/-! ## Longer characters -/

/-- The least number that an open character can still become. -/
def Pending.least (pending : Pending) : Nat :=
  (pending.value * 64 + (pending.low - 0x80)) *
    Nat.pow 64 (pending.owed - 1)

theorem least_mk (value left high : Nat) :
    Pending.least ⟨value, left + 1, 0x80, high⟩ =
      value * 64 * Nat.pow 64 left := by
  simp [Pending.least]

/--
A character that is no ASCII, or the one that stands for numbers that are no
code points.
-/
def IsLong (character : Char) : Prop :=
  character.toNat = 0 ∨ 128 ≤ character.toNat

instance (character : Char) : Decidable (IsLong character) :=
  inferInstanceAs (Decidable (_ ∨ _))

theorem isLong_ofNat {code : Nat} (large : 128 ≤ code) :
    IsLong (Char.ofNat code) := by
  unfold IsLong
  rcases toNat_ofNat_cases code with valid | first
  · omega
  · omega

/-- No octet opens a character that could still become one of ASCII. -/
theorem least_of_opening (octet : UInt8) :
    ∀ pending ∈ (opening octet).2, 128 ≤ pending.least :=
  forall_octet
    (fun octet => ∀ pending ∈ (opening octet).2, 128 ≤ pending.least)
    (by decide +kernel) octet

theorem mem_opening {octet : UInt8} {character : Char}
    (member : character ∈ (opening octet).1) :
    IsLong character ∨ character.toNat = octet.toNat := by
  by_cases small : octet.toNat < 128
  · rw [opening_of_small small] at member
    rw [List.mem_singleton.mp member]
    rcases toNat_ofNat_cases octet.toNat with valid | first
    · exact Or.inr valid
    · exact Or.inl (Or.inl first)
  · have replaced : character = replacement := by
      unfold opening at member
      grind
    rw [replaced]
    exact Or.inl (by decide)

/--
An octet that leaves a character open keeps its least number, or makes it
larger.
-/
theorem least_of_step
    {state : Option Pending}
    (large : ∀ pending ∈ state, 128 ≤ pending.least) (octet : UInt8) :
    ∀ pending ∈ (step state octet).2, 128 ≤ pending.least := by
  cases state with
  | none => exact least_of_opening octet
  | some pending =>
      have here := large pending rfl
      simp only [step, continuing]
      split
      · next continues =>
        split
        · simp
        · next more =>
          obtain ⟨left, owed⟩ : ∃ left, pending.owed - 1 = left + 1 :=
            ⟨pending.owed - 2, by omega⟩
          have grown :
              (pending.value * 64 + (pending.low - 0x80)) *
                  Nat.pow 64 (left + 1) ≤
                (pending.value * 64 + (octet.toNat - 0x80)) * 64 *
                  Nat.pow 64 left := by
            have power : Nat.pow 64 (left + 1) = 64 * Nat.pow 64 left :=
              Nat.mul_comm _ _
            rw [power, ← Nat.mul_assoc]
            apply Nat.mul_le_mul_right
            apply Nat.mul_le_mul_right
            omega
          intro next opened
          obtain rfl := Option.some.inj opened
          rw [Pending.least, owed] at here
          rw [owed, least_mk]
          exact Nat.le_trans here grown
      · exact least_of_opening octet

/-- What an octet completes is a long character, or the octet itself. -/
theorem mem_step
    {state : Option Pending}
    (large : ∀ pending ∈ state, 128 ≤ pending.least)
    {octet : UInt8} {character : Char}
    (member : character ∈ (step state octet).1) :
    IsLong character ∨ character.toNat = octet.toNat := by
  cases state with
  | none => exact mem_opening member
  | some pending =>
      have here := large pending rfl
      simp only [step, continuing] at member
      split at member
      · next continues =>
        split at member
        · next last =>
          have owed : pending.owed - 1 = 0 := by omega
          have power : Nat.pow 64 0 = 1 := rfl
          rw [Pending.least, owed, power, Nat.mul_one] at here
          rw [List.mem_singleton.mp member]
          exact Or.inl (isLong_ofNat (by omega))
        · simp at member
      · rcases List.mem_cons.mp member with rfl | opened
        · exact Or.inl (by decide)
        · exact mem_opening opened

theorem mem_decodeFrom
    {state : Option Pending}
    (large : ∀ pending ∈ state, 128 ≤ pending.least)
    {octets : Octets} {character : Char}
    (member : character ∈ decodeFrom state octets) :
    IsLong character ∨ ∃ octet ∈ octets, character.toNat = octet.toNat := by
  induction octets generalizing state with
  | nil =>
      cases state with
      | none => cases member
      | some pending =>
          rw [List.mem_singleton.mp member]
          exact Or.inl (by decide)
  | cons first rest ih =>
      rw [decodeFrom_cons] at member
      rcases List.mem_append.mp member with here | later
      · exact (mem_step large here).imp_right
          fun same => ⟨first, List.mem_cons_self, same⟩
      · exact (ih (least_of_step large first) later).imp_right
          fun ⟨octet, among, same⟩ =>
            ⟨octet, List.mem_cons_of_mem first among, same⟩

/-! ## Lines -/

/-- Octets without a line feed are read as one line. -/
theorem newline_not_mem_decode
    {octets : Octets} (whole : 0x0a ∉ octets) : '\n' ∉ decode octets := by
  intro member
  rcases mem_decodeFrom (by simp) member with long | ⟨octet, among, same⟩
  · exact absurd long (by decide)
  · have feed : octet = 0x0a := UInt8.toNat_inj.mp same.symm
    exact whole (feed ▸ among)

theorem decode_intercalate (lines : List Octets) :
    decode (List.intercalate [0x0a] lines) =
      List.intercalate ['\n'] (lines.map decode) := by
  apply apply_intercalate rfl
  intro left right
  rw [List.append_assoc, List.append_assoc]
  exact decode_append_newline left right

/-- Cutting before decoding gives the same lines as cutting after it. -/
theorem pieces_decode (octets : Octets) :
    pieces (decode octets) = (octets.lines).map decode := by
  have some_line : (octets.lines).map decode ≠ [] :=
    fun none => List.splitOn_ne_nil _ _ (List.map_eq_nil_iff.mp none)
  have whole :
      ∀ text ∈ (octets.lines).map decode, '\n' ∉ text := by
    intro text member
    obtain ⟨line, among, rfl⟩ := List.mem_map.mp member
    exact newline_not_mem_decode (Octets.newline_not_mem_of_mem_lines among)
  rw [← split_intercalate_of_not_mem some_line whole, ← decode_intercalate]
  unfold Octets.lines
  rw [List.intercalate_splitOn]

end Text.Utf8

end ResolverGrader
