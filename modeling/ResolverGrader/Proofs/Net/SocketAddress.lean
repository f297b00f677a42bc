import ResolverGrader.Proofs.Net.IpAddress
import ResolverGrader.Proofs.Text.Blank
import ResolverGrader.Proofs.Text.Lines

/-!
# Reading addresses with and without a port

The text of an address of either version, and the text of an address with its
port, are read back.  A text is tried as an IPv4 address first, and no IPv6
address passes for one: its first digits have a colon behind them, or nothing.

What tells the two versions apart without reading them is the number of colons:
there is none in the text of an IPv4 address, and there are at least two in the
text of an IPv6 address.
-/

namespace ResolverGrader.Net

open ResolverGrader.Text

/-! ## The characters of an address -/

/-- Whether a character can stand in the text of an address without a port. -/
def IsAddressCharacter (character : Char) : Prop :=
  isDigitIn 16 character = true ∨ character = ':' ∨ character = '.'

theorem isAddressCharacter_of_mem_toDigits
    {base : Nat} (proper : 1 < base) (hexadecimal : base ≤ 16)
    {number : Nat} {character : Char}
    (member : character ∈ Nat.toDigits base number) :
    IsAddressCharacter character :=
  Or.inl <| isDigitIn_of_le hexadecimal <|
    isDigitIn_of_mem_toDigits proper hexadecimal number character member

theorem IsAddressCharacter.isBlank_eq_false
    {character : Char} (allowed : IsAddressCharacter character) :
    isBlank character = false := by
  rcases allowed with digit | rfl | rfl
  · have bounds := toNat_of_isDigitIn digit
    exact isBlank_of_visible (by omega) (by omega)
  · exact isBlank_of_visible (by decide) (by decide)
  · exact isBlank_of_visible (by decide) (by decide)

theorem Ipv4.isAddressCharacter_of_mem
    {address : Ipv4} :
    ∀ character ∈ address.characters, IsAddressCharacter character := by
  have dot : IsAddressCharacter '.' := Or.inr (Or.inr rfl)
  unfold Ipv4.characters
  refine forall_mem_intercalate (List.forall_mem_singleton.mpr dot) ?_
  intro part among character member
  obtain ⟨octet, _, rfl⟩ := List.mem_map.mp among
  exact isAddressCharacter_of_mem_toDigits (by decide) (by decide) member

theorem isAddressCharacter_of_mem_groupCharacters
    {groups : List UInt16} :
    ∀ character ∈ groupCharacters groups, IsAddressCharacter character := by
  have colon : IsAddressCharacter ':' := Or.inr (Or.inl rfl)
  unfold groupCharacters
  refine forall_mem_intercalate (List.forall_mem_singleton.mpr colon) ?_
  intro part among character member
  obtain ⟨group, _, rfl⟩ := List.mem_map.mp among
  exact isAddressCharacter_of_mem_toDigits (by decide) (by decide) member

theorem Ipv6.isAddressCharacter_of_mem
    {address : Ipv6} :
    ∀ character ∈ address.characters, IsAddressCharacter character := by
  have colon : IsAddressCharacter ':' := Or.inr (Or.inl rfl)
  unfold Ipv6.characters
  split
  · have letter : IsAddressCharacter 'f' := Or.inl (by decide)
    have opening :
        ∀ character ∈ "::ffff:".toList, IsAddressCharacter character := by
      simp [colon, letter]
    exact List.forall_mem_append.mpr
      ⟨opening, Ipv4.isAddressCharacter_of_mem⟩
  · dsimp only
    split
    · simp only [List.forall_mem_append, List.forall_mem_cons, colon,
        true_and]
      exact ⟨⟨isAddressCharacter_of_mem_groupCharacters,
        List.forall_mem_nil _⟩, isAddressCharacter_of_mem_groupCharacters⟩
    · exact isAddressCharacter_of_mem_groupCharacters

theorem IpAddress.isAddressCharacter_of_mem
    {address : IpAddress} :
    ∀ character ∈ address.characters, IsAddressCharacter character := by
  cases address with
  | v4 address => exact Ipv4.isAddressCharacter_of_mem
  | v6 address => exact Ipv6.isAddressCharacter_of_mem

theorem IpAddress.head?_characters_ne_bracket (address : IpAddress) :
    address.characters.head? ≠ some '[' := by
  intro bracket
  have member := List.mem_of_mem_head? bracket
  rcases address.isAddressCharacter_of_mem '[' member with
    digit | colon | dot
  · exact absurd digit (by decide)
  · exact absurd colon (by decide)
  · exact absurd dot (by decide)

theorem IpAddress.isBlank_eq_false_of_mem
    (address : IpAddress) :
    ∀ character ∈ address.characters, isBlank character = false :=
  fun character member =>
    (address.isAddressCharacter_of_mem character member).isBlank_eq_false

/-- Nothing in the text of an address with a port is white space. -/
theorem SocketAddress.isBlank_eq_false_of_mem
    (address : SocketAddress) :
    ∀ character ∈ address.characters, isBlank character = false := by
  have mark {character : Char}
      (visible : 32 < character.toNat ∧ character.toNat ≤ 126) :
      isBlank character = false :=
    isBlank_of_visible visible.1 visible.2
  have digits (number : Nat) :
      ∀ character ∈ decimalDigits number, isBlank character = false :=
    fun character member =>
      (isAddressCharacter_of_mem_toDigits (by decide) (by decide)
        member).isBlank_eq_false
  cases address with
  | v4 address port =>
      refine List.forall_mem_append.mpr ⟨?_, ?_⟩
      · exact (IpAddress.v4 address).isBlank_eq_false_of_mem
      · exact List.forall_mem_cons.mpr ⟨mark (by decide), digits _⟩
  | v6 address scope port =>
      have scopeVisible :
          ∀ character ∈
              (if scope = 0 then [] else '%' :: decimalDigits scope.toNat),
            isBlank character = false := by
        split
        · exact List.forall_mem_nil _
        · exact List.forall_mem_cons.mpr ⟨mark (by decide), digits _⟩
      have inner :
          ∀ character ∈ address.characters, isBlank character = false :=
        (IpAddress.v6 address).isBlank_eq_false_of_mem
      simp only [SocketAddress.characters, List.forall_mem_append,
        List.forall_mem_cons]
      exact ⟨⟨⟨mark (by decide), inner⟩, scopeVisible⟩, mark (by decide),
        mark (by decide), digits _⟩

/-! ## Colons -/

theorem colon_not_mem_decimalDigits (number : Nat) :
    ':' ∉ decimalDigits number := by
  intro member
  have digit :=
    isDigitIn_of_mem_toDigits (by decide) (by decide) number ':' member
  exact absurd digit (by decide)

theorem Ipv4.colon_not_mem (address : Ipv4) : ':' ∉ address.characters := by
  refine not_mem_intercalate (by decide) ?_
  intro part among
  obtain ⟨octet, _, rfl⟩ := List.mem_map.mp among
  exact colon_not_mem_decimalDigits octet.toNat

/-- One colon stands in an IPv4 address with a port. -/
theorem SocketAddress.count_colon_v4 (address : Ipv4) (port : UInt16) :
    (SocketAddress.v4 address port).characters.count ':' = 1 := by
  rw [SocketAddress.characters, List.count_append, List.count_cons_self,
    List.count_eq_zero.mpr address.colon_not_mem,
    List.count_eq_zero.mpr (colon_not_mem_decimalDigits port.toNat)]

/--
An address is printed in full, or groups with a double colon behind them are.
-/
theorem Ipv6.characters_cases (address : Ipv6) :
    address.characters = groupCharacters address.groups ∨
      ∃ groups behind,
        address.characters =
          groupCharacters groups ++ ':' :: ':' :: behind := by
  unfold Ipv6.characters
  split
  · next high low _ =>
    exact Or.inr ⟨[], "ffff:".toList ++ (Ipv4.ofGroups high low).characters,
      rfl⟩
  · dsimp only
    split
    · exact Or.inr ⟨_, _, by rw [List.append_assoc]; rfl⟩
    · exact Or.inl rfl

theorem length_le_count_colonGroups (groups : List UInt16) :
    groups.length ≤ (colonGroups groups).count ':' := by
  induction groups with
  | nil => exact Nat.zero_le _
  | cons group groups ih =>
      have split :
          colonGroups (group :: groups) =
            ':' :: (hexadecimalDigits group.toNat ++ colonGroups groups) :=
        rfl
      rw [split, List.count_cons_self, List.count_append,
        List.length_cons]
      omega

theorem Ipv6.one_lt_count_colon (address : Ipv6) :
    1 < address.characters.count ':' := by
  rcases address.characters_cases with full | ⟨groups, behind, compressed⟩
  · have all := address.length_groups
    obtain ⟨group, groups, cut⟩ :=
      List.exists_cons_of_length_pos (l := address.groups) (by omega)
    rw [cut, List.length_cons] at all
    have colons := length_le_count_colonGroups groups
    rw [full, cut, groupCharacters_cons, List.count_append]
    omega
  · rw [compressed, List.count_append, List.count_cons_self,
      List.count_cons_self]
    omega

/-! ## Addresses without a port -/

theorem hasNoPart_nil : HasNoPart [] :=
  ⟨endsRun_nil 16, nofun⟩

theorem endsGroups_nil : EndsGroups [] :=
  ⟨hasNoPart_nil, nofun⟩

theorem readIpv4?_groupCharacters
    (groups : List UInt16) {rest : List Char} (ends : HasNoPart rest) :
    readIpv4? (groupCharacters groups ++ rest) = none := by
  cases groups with
  | nil => exact readIpv4?_of_isDigitIn (List.forall_mem_nil _) ends
  | cons group groups =>
      rw [groupCharacters_cons, List.append_assoc]
      exact readIpv4?_of_isDigitIn
        (isDigitIn_of_mem_toDigits (by decide) (by decide) _)
        (hasNoPart_colonGroups_append groups ends)

/-- No IPv6 address passes for an IPv4 address. -/
theorem readIpv4?_ipv6 (address : Ipv6) :
    readIpv4? address.characters = none := by
  rcases address.characters_cases with full | ⟨groups, behind, compressed⟩
  · rw [full, ← List.append_nil (groupCharacters _)]
    exact readIpv4?_groupCharacters _ hasNoPart_nil
  · rw [compressed]
    exact readIpv4?_groupCharacters _ (hasNoPart_cons (by decide) _)

/-- An address without a port is read back. -/
theorem IpAddress.parse?_characters (address : IpAddress) :
    IpAddress.parse? address.characters = some address := by
  unfold IpAddress.parse? readIp? IpAddress.characters
  cases address with
  | v4 address =>
      have read := readIpv4?_append address (endsRun_nil 10)
      rw [List.append_nil] at read
      simp [read, complete?]
  | v6 address =>
      have read := readIpv6?_append address endsGroups_nil
      rw [List.append_nil] at read
      simp [read, readIpv4?_ipv6, complete?]

/-! ## Addresses with a port -/

theorem readPort?_append
    (port : UInt16) {rest : List Char} (ends : EndsRun 10 rest) :
    readPort? (':' :: (decimalDigits port.toNat ++ rest)) =
      some (port, rest) := by
  have read :
      portForm.read? (decimalDigits port.toNat ++ rest) =
        some (port.toNat, rest) :=
    NumberForm.read?_toDigits_append (by decide) (by decide)
      (NumberForm.admits_of_lt rfl port.toNat_lt) ends
  simp [readPort?, read]

/-- A scope is read back; where none is printed, none is read. -/
theorem readScope_append (scope : UInt32) (rest : List Char) :
    readScope
        ((if scope = 0 then [] else '%' :: decimalDigits scope.toNat) ++
          ']' :: rest) =
      (scope, ']' :: rest) := by
  unfold readScope
  by_cases outside : scope = 0
  · have absent : readChar? '%' (']' :: rest) = none :=
      readChar?_of_head?_ne (by simp)
    simp [outside, absent]
  · have read :
        scopeForm.read? (decimalDigits scope.toNat ++ ']' :: rest) =
          some (scope.toNat, ']' :: rest) :=
      NumberForm.read?_toDigits_append (by decide) (by decide)
        (NumberForm.admits_of_lt rfl scope.toNat_lt)
        (endsRun_cons.mpr (by decide))
    simp [outside, read]

theorem endsGroups_scope (scope : UInt32) (rest : List Char) :
    EndsGroups
      ((if scope = 0 then [] else '%' :: decimalDigits scope.toNat) ++
        ']' :: rest) := by
  split
  · exact ⟨hasNoPart_cons (by decide) _, nofun⟩
  · exact ⟨hasNoPart_cons (by decide) _, nofun⟩

/-- An address with a port is read back. -/
theorem SocketAddress.parse?_characters (address : SocketAddress) :
    SocketAddress.parse? address.characters = some address := by
  unfold SocketAddress.parse? SocketAddress.characters
  cases address with
  | v4 address port =>
      have portRead := readPort?_append port (endsRun_nil 10)
      rw [List.append_nil] at portRead
      have read :
          readIpv4? (address.characters ++
              ':' :: decimalDigits port.toNat) =
            some (address, ':' :: decimalDigits port.toNat) :=
        readIpv4?_append address (endsRun_cons.mpr (by decide))
      simp [readSocketV4?, read, portRead, complete?]
  | v6 address scope port =>
      have portRead := readPort?_append port (endsRun_nil 10)
      rw [List.append_nil] at portRead
      have read := readIpv6?_append address
        (endsGroups_scope scope (':' :: decimalDigits port.toNat))
      have bracketed (text : List Char) : readIpv4? ('[' :: text) = none :=
        readIpv4?_of_isDigitIn (List.forall_mem_nil _)
          (hasNoPart_cons (by decide) text)
      simp [readSocketV4?, readSocketV6?, bracketed, read,
        readScope_append, portRead, complete?]

/-- Behind an IPv4 address stands no port, and before it no bracket. -/
theorem SocketAddress.parse?_ipv4 (address : Ipv4) :
    SocketAddress.parse? address.characters = none := by
  have read := readIpv4?_append address (endsRun_nil 10)
  rw [List.append_nil] at read
  have noPort : readPort? [] = none := rfl
  have noBracket : readChar? '[' address.characters = none :=
    readChar?_of_head?_ne (IpAddress.v4 address).head?_characters_ne_bracket
  simp [SocketAddress.parse?, readSocketV4?, readSocketV6?, read, noPort,
    noBracket, complete?]

end ResolverGrader.Net
