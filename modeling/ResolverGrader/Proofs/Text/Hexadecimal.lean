import ResolverGrader.Proofs.Text.Ascii
import ResolverGrader.Text.Octets

/-!
# Octets in hexadecimal

The digits of a sequence of octets are small, they read back as the octets, and
each octet has two places of its own: dropping octets is dropping pairs of
digits.
-/

namespace ResolverGrader.Octets

open ResolverGrader.Text

/-- A text of small hexadecimal digits. -/
def IsSmall (text : List Char) : Prop :=
  ∀ digit ∈ text, digit ∈ "0123456789abcdef".toList

instance (text : List Char) : Decidable (IsSmall text) :=
  List.decidableBAll _ text

/-- A text of small hexadecimal digits that reads back as the octets. -/
structure IsWritten (text : List Char) (octets : Octets) : Prop where
  small : IsSmall text
  readsBack : ofHexDigits? text = some octets

theorem isSmall_hexPair (octet : UInt8) : IsSmall (hexPair octet) :=
  forall_octet (fun octet => IsSmall (hexPair octet))
    (by decide +kernel) octet

theorem hexValue?_hexDigit {value : Nat} (small : value < 16) :
    hexValue? (hexDigit value) = some value := by
  revert value
  decide

/-- A pair of digits is read as its octet. -/
theorem ofHexDigits?_hexPair_append (octet : UInt8) (rest : List Char) :
    ofHexDigits? (hexPair octet ++ rest) =
      (ofHexDigits? rest).map (octet :: ·) := by
  have bound := octet.toNat_lt
  have high : octet.toNat / 16 < 16 := by omega
  have low : octet.toNat % 16 < 16 := by omega
  have whole : UInt8.ofNat (octet.toNat / 16 * 16 + octet.toNat % 16) =
      octet := by
    rw [Nat.div_add_mod', UInt8.ofNat_toNat]
  unfold hexPair
  simp only [List.cons_append, List.nil_append, ofHexDigits?,
    hexValue?_hexDigit high, hexValue?_hexDigit low,
    Option.bind_eq_bind, Option.bind_some, whole]
  cases ofHexDigits? rest with
  | none => rfl
  | some octets => rfl

theorem ofHexDigits?_hexDigits (octets : Octets) :
    ofHexDigits? octets.hexDigits = some octets := by
  induction octets with
  | nil => rfl
  | cons octet rest ih =>
      rw [hexDigits_cons, ofHexDigits?_hexPair_append, ih, Option.map_some]

theorem isWritten_hexDigits (octets : Octets) :
    IsWritten octets.hexDigits octets := by
  refine ⟨?_, ofHexDigits?_hexDigits octets⟩
  intro digit member
  obtain ⟨octet, _, inside⟩ := List.mem_flatMap.mp member
  exact isSmall_hexPair octet digit inside

theorem isWritten_hexPair (octet : UInt8) :
    IsWritten (hexPair octet) [octet] := by
  simpa using isWritten_hexDigits [octet]

/-- Different octets are written differently. -/
theorem hexDigits_injective : Function.Injective hexDigits := by
  intro left right same
  have readsBack := congrArg ofHexDigits? same
  rw [ofHexDigits?_hexDigits, ofHexDigits?_hexDigits] at readsBack
  exact Option.some.inj readsBack

theorem hexDigits_drop (octets : Octets) (count : Nat) :
    hexDigits (octets.drop count) = octets.hexDigits.drop (2 * count) := by
  induction count generalizing octets with
  | zero => rfl
  | succ count ih =>
      cases octets with
      | nil => simp
      | cons octet rest =>
          rw [List.drop_succ_cons, ih, hexDigits_cons, Nat.mul_succ]
          rfl

/-- The two places of an octet hold its two digits. -/
theorem take_drop_hexDigits
    {octets : Octets} {position : Nat} {octet : UInt8}
    (there : octets[position]? = some octet) :
    (octets.hexDigits.drop (2 * position)).take 2 = hexPair octet := by
  have inside := (List.getElem?_eq_some_iff.mp there).1
  have here := (List.getElem?_eq_some_iff.mp there).2
  rw [← hexDigits_drop, List.drop_eq_getElem_cons inside, here,
    hexDigits_cons]
  rfl

theorem hexPair_eq_zeros_iff (octet : UInt8) :
    hexPair octet = ['0', '0'] ↔ octet = 0 :=
  forall_octet (fun octet => hexPair octet = ['0', '0'] ↔ octet = 0)
    (by decide +kernel) octet

end ResolverGrader.Octets
