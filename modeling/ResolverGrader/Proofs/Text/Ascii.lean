import ResolverGrader.Text.Lowercase
import ResolverGrader.Text.Utf8

/-!
# ASCII text

On the first 128 characters the rules for text become simple: every character
is one octet, nothing is replaced when the octets are read back, and
lower-casing looks at one letter at a time.

`SameLetters` relates texts that differ only in the case of ASCII letters; what
letter case does not touch is the same on both sides.
-/

namespace ResolverGrader.Text

/-- A text of the first 128 characters. -/
def IsAscii (text : List Char) : Prop :=
  ∀ character ∈ text, character.toNat < 128

/-- Two texts that differ at most in the case of ASCII letters. -/
def SameLetters (left right : List Char) : Prop :=
  left.map Char.toLower = right.map Char.toLower

/-- What holds of 128 codes holds of every ASCII character. -/
theorem forall_ascii
    (holds : Char → Prop)
    (each : ∀ code < 128, holds (Char.ofNat code))
    (character : Char) (small : character.toNat < 128) :
    holds character := by
  have here := each character.toNat small
  rwa [Char.ofNat_toNat] at here

/-- What holds of every number below 256 holds of every octet. -/
theorem forall_octet
    (holds : UInt8 → Prop)
    (each : ∀ code < 256, holds (UInt8.ofNat code))
    (octet : UInt8) : holds octet := by
  have here := each octet.toNat octet.toNat_lt
  rwa [UInt8.ofNat_toNat] at here

theorem isAscii_cons {character : Char} {rest : List Char} :
    IsAscii (character :: rest) ↔
      character.toNat < 128 ∧ IsAscii rest :=
  List.forall_mem_cons

/-! ## Octets -/

theorem utf8EncodeChar_of_ascii
    (character : Char) (small : character.toNat < 128) :
    String.utf8EncodeChar character =
      [UInt8.ofNat character.toNat] :=
  forall_ascii
    (fun character =>
      String.utf8EncodeChar character = [UInt8.ofNat character.toNat])
    (by decide +kernel) character small

namespace Utf8

theorem opening_of_ascii
    (character : Char) (small : character.toNat < 128) :
    opening (UInt8.ofNat character.toNat) = ([character], none) := by
  have code : (UInt8.ofNat character.toNat).toNat = character.toNat :=
    UInt8.toNat_ofNat_of_lt' (Nat.lt_trans small (by decide))
  unfold opening
  rw [code]
  simp [small]

/-- ASCII text survives being written and read back. -/
theorem decode_encode_of_ascii
    {text : List Char} (ascii : IsAscii text) :
    decode (encode text) = text := by
  induction text with
  | nil => rfl
  | cons character rest ih =>
      obtain ⟨small, later⟩ := isAscii_cons.mp ascii
      have encoded :
          encode (character :: rest) =
            UInt8.ofNat character.toNat :: encode rest := by
        show String.utf8EncodeChar character ++ encode rest = _
        rw [utf8EncodeChar_of_ascii character small]
        rfl
      unfold decode at ih ⊢
      rw [encoded, decodeFrom_cons]
      show (opening _).1 ++ decodeFrom (opening _).2 (encode rest) = _
      rw [opening_of_ascii character small, ih later]
      rfl

end Utf8

/-! ## Letter case -/

theorem lowercaseChar_of_ascii
    (character : Char) (small : character.toNat < 128) :
    lowercaseChar character = [character.toLower] :=
  forall_ascii
    (fun character => lowercaseChar character = [character.toLower])
    (by decide +kernel) character small

theorem lowercase_of_ascii
    {text : List Char} (ascii : IsAscii text) :
    lowercase text = text.map Char.toLower := by
  -- The context only matters to a capital sigma, which is not ASCII.
  have anywhere (before : List Char) :
      lowercaseAfter before text = text.map Char.toLower := by
    induction text generalizing before with
    | nil => rfl
    | cons character rest ih =>
        obtain ⟨small, later⟩ := isAscii_cons.mp ascii
        have notSigma : character ≠ 'Σ' := by
          rintro rfl
          exact absurd small (by decide)
        rw [lowercaseAfter_cons_of_ne before rest notSigma,
          lowercaseChar_of_ascii character small, ih later]
        rfl
  exact anywhere []

/--
Only the twenty-six capital letters change, and each moves by the same
distance.
-/
theorem toNat_toLower (character : Char) :
    character.toLower.toNat =
      if 65 ≤ character.toNat ∧ character.toNat ≤ 90 then
        character.toNat + 32
      else character.toNat := by
  unfold Char.toLower
  by_cases capital : 65 ≤ character.toNat ∧ character.toNat ≤ 90
  · rw [if_pos capital, dif_pos ⟨capital.1, capital.2⟩]
    show (character.val + 32).toNat = character.toNat + 32
    rw [UInt32.toNat_add]
    exact Nat.mod_eq_of_lt (by have := capital.2; simp; omega)
  · rw [if_neg capital, dif_neg fun letter => capital ⟨letter.1, letter.2⟩]

namespace SameLetters

/--
What letter case does not touch holds of all characters on both sides or on
neither.
-/
theorem forall_mem_iff
    {left right : List Char} (same : SameLetters left right)
    (holds : Char → Prop)
    (caseless : ∀ character, holds character.toLower ↔ holds character) :
    (∀ character ∈ left, holds character) ↔
      ∀ character ∈ right, holds character := by
  have lowered (text : List Char) :
      (∀ character ∈ text.map Char.toLower, holds character) ↔
        ∀ character ∈ text, holds character := by
    simp only [List.forall_mem_map, caseless]
  rw [← lowered left, ← lowered right, same]

/--
What letter case does not touch holds of a character on both sides or on
neither.
-/
theorem exists_mem_iff
    {left right : List Char} (same : SameLetters left right)
    (holds : Char → Prop)
    (caseless : ∀ character, holds character.toLower ↔ holds character) :
    (∃ character ∈ left, holds character) ↔
      ∃ character ∈ right, holds character := by
  have lowered (text : List Char) :
      (∃ character ∈ text.map Char.toLower, holds character) ↔
        ∃ character ∈ text, holds character := by
    constructor
    · rintro ⟨_, member, here⟩
      obtain ⟨character, among, rfl⟩ := List.mem_map.mp member
      exact ⟨character, among, (caseless character).mp here⟩
    · rintro ⟨character, among, here⟩
      exact ⟨_, List.mem_map_of_mem among, (caseless character).mpr here⟩
  rw [← lowered left, ← lowered right, same]

end SameLetters

end ResolverGrader.Text
