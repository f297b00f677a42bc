import Mathlib.Data.List.TakeWhile
import ResolverGrader.Net.Address
import ResolverGrader.Proofs.Text.Digits

/-!
# Reading addresses

The text of an address of either version is read back as the address.
-/

namespace ResolverGrader.Net

open ResolverGrader.Text

/-!
## Version 4

The dotted text of an address is read back as the address, and whatever follows
is left, as long as it does not begin with a digit.  A text that does not go on
with a dot behind its first digits is no IPv4 address.
-/

@[simp]
theorem readChar?_cons_self (character : Char) (rest : List Char) :
    readChar? character (character :: rest) = some rest :=
  if_pos rfl

theorem readChar?_of_head?_ne
    {expected : Char} {text : List Char}
    (other : text.head? ≠ some expected) :
    readChar? expected text = none := by
  cases text with
  | nil => rfl
  | cons first rest => exact if_neg fun same => other (congrArg some same)

theorem admits_octet (octet : UInt8) : octetForm.Admits octet.toNat := by
  refine ⟨octet.toNat_lt, ?_⟩
  rintro _ ⟨⟩
  apply (Nat.length_toDigits_le_iff (by decide) (by decide)).mpr
  have := octet.toNat_lt
  show octet.toNat < 1000
  omega

theorem readOctet?_append
    (octet : UInt8) {rest : List Char} (ends : EndsRun 10 rest) :
    readOctet? (decimalDigits octet.toNat ++ rest) =
      some (octet, rest) := by
  have read :
      octetForm.read? (decimalDigits octet.toNat ++ rest) =
        some (octet.toNat, rest) :=
    NumberForm.read?_toDigits_append (by decide) (by decide)
      (admits_octet octet) ends
  simp [readOctet?, read]

/-- An octet that is read ends where the digits end. -/
theorem rest_of_readOctet?
    {text rest : List Char} {octet : UInt8}
    (read : readOctet? text = some (octet, rest)) :
    rest = text.dropWhile (isDigitIn 10) := by
  obtain ⟨⟨number, after⟩, found, same⟩ := Option.map_eq_some_iff.mp read
  cases same
  exact NumberForm.rest_of_read? found

theorem Ipv4.characters_eq (address : Ipv4) :
    address.characters =
      decimalDigits address.first.toNat ++ '.' ::
        (decimalDigits address.second.toNat ++ '.' ::
          (decimalDigits address.third.toNat ++ '.' ::
            decimalDigits address.fourth.toNat)) := by
  unfold Ipv4.characters Ipv4.octets
  simp

theorem Ipv4.characters_ne_nil (address : Ipv4) :
    address.characters ≠ [] := by
  simp [Ipv4.characters_eq]

/-- The text of an address is read back, and what follows is left. -/
theorem readIpv4?_append
    (address : Ipv4) {rest : List Char} (ends : EndsRun 10 rest) :
    readIpv4? (address.characters ++ rest) = some (address, rest) := by
  have dot (more : List Char) : EndsRun 10 ('.' :: more) :=
    endsRun_cons.mpr (by decide)
  rw [Ipv4.characters_eq]
  unfold readIpv4?
  simp only [List.append_assoc, List.cons_append,
    readOctet?_append _ (dot _), readOctet?_append _ ends,
    readChar?_cons_self, Option.bind_eq_bind, Option.bind_some,
    Option.pure_def]

theorem readIpv4?_eq_none
    {text : List Char}
    (undotted : (text.dropWhile (isDigitIn 10)).head? ≠ some '.') :
    readIpv4? text = none := by
  unfold readIpv4?
  cases read : readOctet? text with
  | none => rfl
  | some found =>
      obtain ⟨octet, rest⟩ := found
      rw [← rest_of_readOctet? read] at undotted
      simp only [Option.bind_eq_bind, Option.bind_some,
        readChar?_of_head?_ne undotted, Option.bind_none]

/-!
## Version 6

An address is printed in one of three ways: with an IPv4 address at the end,
with its first longest run of zero groups left out, or in full.  Each is read
back as the address.

The reader takes groups as long as it finds them, so all depends on where it
stops: before a double colon, or before what follows the address.
`readGroups_append` is one induction over the groups that covers both.
-/

/-! ### The longest run of zeros -/

/--
The first longest run of zero groups among the ones that begin before a
position.
-/
structure IsLongestRun
    (groups : List UInt16) (seen : Nat) (run : Nat × Nat) : Prop where
  zeros : run.2 ≤ zerosFrom groups run.1
  first : ∀ position < run.1, zerosFrom groups position < run.2
  longest : ∀ position < seen, zerosFrom groups position ≤ run.2

theorem isLongestRun_longestZeroRun (groups : List UInt16) :
    IsLongestRun groups groups.length (longestZeroRun groups) := by
  unfold longestZeroRun
  -- The induction is on the positions looked at; only a longer run replaces
  -- the best one so far.
  induction groups.length with
  | zero =>
      exact ⟨Nat.zero_le _, fun _ before => absurd before (Nat.not_lt_zero _),
        fun _ before => absurd before (Nat.not_lt_zero _)⟩
  | succ seen ih =>
      rw [List.range_succ, List.foldl_append, List.foldl_cons,
        List.foldl_nil]
      generalize List.foldl _ _ (List.range seen) = best at ih ⊢
      split
      · next longer =>
        refine ⟨Nat.le_refl _, ?_, ?_⟩
        · intro position before
          exact Nat.lt_of_le_of_lt (ih.longest position before) longer
        · intro position before
          rcases Nat.lt_succ_iff_lt_or_eq.mp before with earlier | rfl
          · exact Nat.le_trans (ih.longest position earlier)
              (Nat.le_of_lt longer)
          · exact Nat.le_refl _
      · next notLonger =>
        refine ⟨ih.zeros, ih.first, ?_⟩
        intro position before
        rcases Nat.lt_succ_iff_lt_or_eq.mp before with earlier | rfl
        · exact ih.longest position earlier
        · exact Nat.not_lt.mp notLonger

/-- Zeros in place of a run of zeros give the groups back. -/
theorem take_append_replicate_append_drop
    {groups : List UInt16} {start length : Nat}
    (zeros : length ≤ zerosFrom groups start) :
    groups.take start ++ List.replicate length 0 ++
      groups.drop (start + length) = groups := by
  have run : (groups.drop start).take length = List.replicate length 0 := by
    unfold zerosFrom at zeros
    rw [← List.takeWhile_append_dropWhile
      (p := fun group => decide (group = 0)) (l := groups.drop start)]
    rw [List.take_append_of_le_length zeros, List.eq_replicate_iff]
    refine ⟨List.length_take_of_le zeros, ?_⟩
    intro group member
    have zero := List.mem_takeWhile_imp (List.mem_of_mem_take member)
    exact of_decide_eq_true zero
  calc
    groups.take start ++ List.replicate length 0 ++
        groups.drop (start + length) =
      groups.take start ++
        ((groups.drop start).take length ++
          (groups.drop start).drop length) := by
        rw [run, List.drop_drop, List.append_assoc]
    _ = groups := by
      rw [List.take_append_drop, List.take_append_drop]

/-! ### Groups -/

theorem admits_group (group : UInt16) : groupForm.Admits group.toNat := by
  refine ⟨group.toNat_lt, ?_⟩
  rintro _ ⟨⟩
  exact (Nat.length_toDigits_le_iff (by decide) (by decide)).mpr
    group.toNat_lt

theorem readGroup?_append
    (group : UInt16) {rest : List Char} (ends : EndsRun 16 rest) :
    readGroup? (hexadecimalDigits group.toNat ++ rest) =
      some (group, rest) := by
  have read :
      groupForm.read? (hexadecimalDigits group.toNat ++ rest) =
        some (group.toNat, rest) :=
    NumberForm.read?_toDigits_append (by decide) (by decide)
      (admits_group group) ends
  simp [readGroup?, read]

theorem readGroup?_of_endsRun
    {text : List Char} (ends : EndsRun 16 text) :
    readGroup? text = none := by
  unfold readGroup?
  rw [NumberForm.read?_of_endsRun ends, Option.map_none]

/-- Whether a text goes on with neither a digit of a group nor a dot. -/
def HasNoPart (text : List Char) : Prop :=
  EndsRun 16 text ∧ text.head? ≠ some '.'

theorem hasNoPart_cons
    {first : Char} (other : isDigitIn 16 first = false ∧ first ≠ '.')
    (rest : List Char) : HasNoPart (first :: rest) :=
  ⟨endsRun_cons.mpr other.1, fun same => other.2 (Option.some.inj same)⟩

/-- Digits with no dot behind them are no IPv4 address. -/
theorem readIpv4?_of_isDigitIn
    {run rest : List Char}
    (digits : ∀ character ∈ run, isDigitIn 16 character = true)
    (ends : HasNoPart rest) :
    readIpv4? (run ++ rest) = none := by
  apply readIpv4?_eq_none
  rw [List.dropWhile_append]
  -- The decimal digits end with the run, or at the first letter in it.
  split
  · rw [(ends.1.of_le (by decide)).dropWhile_eq_self]
    exact ends.2
  · next some_left =>
    obtain ⟨first, more, left⟩ :=
      List.exists_cons_of_ne_nil (mt List.isEmpty_iff.mpr some_left)
    have member : first ∈ run :=
      (List.dropWhile_suffix (isDigitIn 10)).subset
        (left ▸ List.mem_cons_self)
    rw [left]
    rintro ⟨⟩
    exact absurd (digits '.' member) (by decide)

/-- Groups with a colon before each. -/
def colonGroups (groups : List UInt16) : List Char :=
  groups.flatMap fun group => ':' :: hexadecimalDigits group.toNat

theorem groupCharacters_cons (group : UInt16) (groups : List UInt16) :
    groupCharacters (group :: groups) =
      hexadecimalDigits group.toNat ++ colonGroups groups := by
  unfold groupCharacters colonGroups
  induction groups generalizing group with
  | nil => simp
  | cons second rest ih =>
      rw [List.map_cons, List.intercalate_cons_of_ne_nil (by simp), ih,
        List.flatMap_cons, List.append_assoc]
      rfl

/-- Whether the reader of groups stops before a text. -/
def EndsGroups (rest : List Char) : Prop :=
  HasNoPart rest ∧ ∀ body, rest = ':' :: body → HasNoPart body

section

variable {isFirst : Bool} {limit : Nat} {text body rest : List Char}

theorem readGroups_of_hasNoPart
    (opened : (if isFirst then some text else readChar? ':' text) =
      some body)
    (none_left : HasNoPart body) :
    readGroups isFirst limit text = ⟨[], false, text⟩ := by
  cases limit with
  | zero => rfl
  | succ limit =>
      have noAddress : readIpv4? body = none :=
        readIpv4?_of_isDigitIn (List.forall_mem_nil _) none_left
      unfold readGroups
      simp only [opened, noAddress, ite_self,
        readGroup?_of_endsRun none_left.1]

theorem readGroups_group
    {group : UInt16}
    (opened : (if isFirst then some text else readChar? ':' text) =
      some (hexadecimalDigits group.toNat ++ rest))
    (ends : HasNoPart rest) :
    readGroups isFirst (limit + 1) text =
      let more := readGroups false limit rest
      ⟨group :: more.groups, more.embedded, more.rest⟩ := by
  have noAddress :
      readIpv4? (hexadecimalDigits group.toNat ++ rest) = none :=
    readIpv4?_of_isDigitIn
      (isDigitIn_of_mem_toDigits (by decide) (by decide) _) ends
  rw [readGroups]
  simp only [opened, noAddress, ite_self, readGroup?_append group ends.1]

end

theorem hasNoPart_colonGroups_append
    (groups : List UInt16) {rest : List Char} (ends : HasNoPart rest) :
    HasNoPart (colonGroups groups ++ rest) := by
  cases groups with
  | nil => exact ends
  | cons group groups => exact hasNoPart_cons (by decide) _

theorem readGroups_false_of_endsGroups
    (limit : Nat) {rest : List Char} (ends : EndsGroups rest) :
    readGroups false limit rest = ⟨[], false, rest⟩ := by
  by_cases colon : rest.head? = some ':'
  · obtain ⟨body, rfl⟩ := List.head?_eq_some_iff.mp colon
    exact readGroups_of_hasNoPart (readChar?_cons_self ':' body)
      (ends.2 body rfl)
  · cases limit with
    | zero => rfl
    | succ limit =>
        unfold readGroups
        rw [if_neg Bool.false_ne_true, readChar?_of_head?_ne colon]

theorem readGroups_colonGroups_append
    {groups : List UInt16} {limit : Nat} {rest : List Char}
    (within : groups.length ≤ limit) (ends : EndsGroups rest) :
    readGroups false limit (colonGroups groups ++ rest) =
      ⟨groups, false, rest⟩ := by
  induction groups generalizing limit with
  | nil => exact readGroups_false_of_endsGroups limit ends
  | cons group groups ih =>
      obtain ⟨limit, rfl⟩ :=
        Nat.exists_eq_add_one_of_ne_zero (Nat.ne_zero_of_lt within)
      have opened :
          (if false then some (colonGroups (group :: groups) ++ rest)
            else readChar? ':' (colonGroups (group :: groups) ++ rest)) =
              some (hexadecimalDigits group.toNat ++
                (colonGroups groups ++ rest)) := by
        rw [← List.append_assoc]
        exact readChar?_cons_self ':' _
      rw [readGroups_group opened
        (hasNoPart_colonGroups_append groups ends.1)]
      dsimp only
      rw [ih (Nat.le_of_succ_le_succ within)]

/--
Groups are read back as far as they go, if there is room for all of them.
-/
theorem readGroups_append
    {groups : List UInt16} {limit : Nat} {rest : List Char}
    (within : groups.length ≤ limit) (ends : EndsGroups rest) :
    readGroups true limit (groupCharacters groups ++ rest) =
      ⟨groups, false, rest⟩ := by
  cases groups with
  | nil => exact readGroups_of_hasNoPart rfl ends.1
  | cons group groups =>
      obtain ⟨limit, rfl⟩ :=
        Nat.exists_eq_add_one_of_ne_zero (Nat.ne_zero_of_lt within)
      rw [groupCharacters_cons, List.append_assoc,
        readGroups_group rfl (hasNoPart_colonGroups_append groups ends.1)]
      dsimp only
      rw [readGroups_colonGroups_append (Nat.le_of_succ_le_succ within)
        ends]

/-! ### Addresses -/

theorem Ipv6.ofParts?_eq_some
    {head tail : List UInt16} {address : Ipv6}
    (parts : head ++ List.replicate (8 - head.length - tail.length) 0 ++
      tail = address.groups) :
    Ipv6.ofParts? head tail = some address := by
  unfold Ipv6.ofParts?
  simp only [parts, address.length_groups, dite_true]

/-- All eight groups are read back. -/
theorem readIpv6?_groups
    (address : Ipv6) {rest : List Char} (ends : EndsGroups rest) :
    readIpv6? (groupCharacters address.groups ++ rest) =
      some (address, rest) := by
  have all : address.groups.length = 8 := address.length_groups
  have whole : Ipv6.ofParts? address.groups [] = some address :=
    Ipv6.ofParts?_eq_some (by simp [all])
  unfold readIpv6?
  rw [readGroups_append (Nat.le_of_eq all) ends]
  simp [all, whole]

/--
Groups before a double colon, and what follows it, are read back together.
-/
theorem readIpv6?_compressed
    (head : List UInt16) {tail : GroupsRead} {address : Ipv6}
    {behind : List Char}
    (short : head.length < 8)
    (read : readGroups true (7 - head.length) behind = tail)
    (parts :
      head ++ List.replicate (8 - head.length - tail.groups.length) 0 ++
        tail.groups = address.groups) :
    readIpv6? (groupCharacters head ++ ':' :: ':' :: behind) =
      some (address, tail.rest) := by
  have ends : EndsGroups (':' :: ':' :: behind) := by
    refine ⟨hasNoPart_cons (by decide) _, ?_⟩
    rintro _ ⟨⟩
    exact hasNoPart_cons (by decide) _
  unfold readIpv6?
  rw [readGroups_append (Nat.le_of_lt short) ends]
  simp [Nat.ne_of_lt short, read, Ipv6.ofParts?_eq_some parts]

theorem Ipv4.groups_ofGroups (high low : UInt16) :
    (Ipv4.ofGroups high low).groups = [high, low] := by
  have joined (word : UInt16) :
      (word / 256).toUInt8.toUInt16 * 256 +
        (word % 256).toUInt8.toUInt16 = word := by
    have := word.toNat_lt
    apply UInt16.toNat_inj.mp
    simp only [UInt16.toNat_add, UInt16.toNat_mul, UInt8.toNat_toUInt16,
      UInt16.toNat_toUInt8, UInt16.toNat_div, UInt16.toNat_mod,
      UInt16.reduceToNat]
    omega
  unfold Ipv4.groups Ipv4.ofGroups
  simp only [joined]

/-- An address with an IPv4 address in it is read back. -/
theorem readIpv6?_embedded
    {address : Ipv6} {embedded : Ipv4}
    (parts : [0, 0, 0, 0, 0, 0xffff] ++ embedded.groups = address.groups)
    {rest : List Char} (ends : EndsRun 10 rest) :
    readIpv6? ("::ffff:".toList ++ embedded.characters ++ rest) =
      some (address, rest) := by
  have address_read :
      readGroups false 6 (':' :: (embedded.characters ++ rest)) =
        ⟨embedded.groups, true, rest⟩ := by
    rw [readGroups]
    simp [readIpv4?_append embedded ends]
  have tail_read :
      readGroups true 7
          (groupCharacters [0xffff] ++
            ':' :: (embedded.characters ++ rest)) =
        ⟨0xffff :: embedded.groups, true, rest⟩ := by
    rw [groupCharacters_cons, colonGroups, List.flatMap_nil,
      List.append_nil, readGroups_group rfl (hasNoPart_cons (by decide) _),
      address_read]
  exact readIpv6?_compressed [] (by decide) tail_read parts

/--
An address is read back with its first longest run of zero groups left out.
-/
theorem readIpv6?_zeroRun
    {address : Ipv6} {start length : Nat}
    (several : 1 < length)
    (zeros : length ≤ zerosFrom address.groups start)
    {rest : List Char} (ends : EndsGroups rest) :
    readIpv6?
        (groupCharacters (address.groups.take start) ++ [':', ':'] ++
          groupCharacters (address.groups.drop (start + length)) ++ rest) =
      some (address, rest) := by
  have all : address.groups.length = 8 := address.length_groups
  have inside : start + length ≤ 8 := by
    have : zerosFrom address.groups start ≤ 8 - start := by
      unfold zerosFrom
      rw [← all, ← List.length_drop]
      exact (List.takeWhile_sublist _).length_le
    omega
  have head : (address.groups.take start).length = start := by
    rw [List.length_take, all]
    omega
  have tail :
      (address.groups.drop (start + length)).length =
        8 - (start + length) := by
    rw [List.length_drop, all]
  have tail_read :
      readGroups true (7 - (address.groups.take start).length)
          (groupCharacters (address.groups.drop (start + length)) ++
            rest) =
        ⟨address.groups.drop (start + length), false, rest⟩ :=
    readGroups_append (by omega) ends
  have left_out : 8 - start - (8 - (start + length)) = length := by omega
  have parts :
      address.groups.take start ++
          List.replicate
            (8 - (address.groups.take start).length -
              (address.groups.drop (start + length)).length) 0 ++
          address.groups.drop (start + length) = address.groups := by
    rw [head, tail, left_out]
    exact take_append_replicate_append_drop zeros
  have read := readIpv6?_compressed _ (by omega) tail_read parts
  simpa using read

/--
What can stand behind an address: the reader takes no part of it for one.
-/
theorem readIpv6?_append
    (address : Ipv6) {rest : List Char} (ends : EndsGroups rest) :
    readIpv6? (address.characters ++ rest) = some (address, rest) := by
  unfold Ipv6.characters
  split
  · next high low embeds =>
    refine readIpv6?_embedded ?_ (ends.1.1.of_le (by decide))
    rw [Ipv4.groups_ofGroups, embeds]
    rfl
  · obtain ⟨zeros, _, _⟩ :=
      isLongestRun_longestZeroRun address.groups
    generalize longestZeroRun address.groups = run at zeros ⊢
    obtain ⟨start, length⟩ := run
    dsimp only at zeros ⊢
    split
    · next several => exact readIpv6?_zeroRun several zeros ends
    · exact readIpv6?_groups address ends

end ResolverGrader.Net
