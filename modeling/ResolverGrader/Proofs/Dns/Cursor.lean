import Mathlib.Data.List.Basic
import ResolverGrader.Dns.Name.Wire

/-!
# What stands at a place

Octets, numbers and runs of octets stand at places of a message, and a cursor
at a place reads just these.  What stands at a place still stands there when
more octets follow the message.
-/

namespace ResolverGrader.Dns

variable {octets : Octets} {place : Nat}

/-- A number of two octets at a place, the high octet first. -/
def WordAt (octets : Octets) (place : Nat) (word : UInt16) : Prop :=
  ∃ high low, octets[place]? = some high ∧ octets[place + 1]? = some low ∧
    word = UInt16.ofNat (high.toNat * 256 + low.toNat)

/-- A number of four octets at a place, the high octets first. -/
def LongAt (octets : Octets) (place : Nat) (long : UInt32) : Prop :=
  ∃ high low, WordAt octets place high ∧ WordAt octets (place + 2) low ∧
    long = UInt32.ofNat (high.toNat * 65536 + low.toNat)

/-- A number of two octets at a place, as a count of items. -/
def CountAt (octets : Octets) (place count : Nat) : Prop :=
  ∃ word, WordAt octets place word ∧ word.toNat = count

/-- A run of octets at a place. -/
def RunAt (octets : Octets) (place : Nat) (run : Octets) : Prop :=
  run <+: octets.drop place

/-! ## Octets that follow -/

theorem lt_length_of_getElem?
    {octet : UInt8} (stands : octets[place]? = some octet) :
    place < octets.length :=
  (List.getElem?_eq_some_iff.mp stands).1

theorem getElem?_append
    {octet : UInt8} (stands : octets[place]? = some octet)
    (following : Octets) : (octets ++ following)[place]? = some octet := by
  rw [List.getElem?_append_left (lt_length_of_getElem? stands), stands]

theorem WordAt.append
    {word : UInt16} (stands : WordAt octets place word)
    (following : Octets) : WordAt (octets ++ following) place word := by
  obtain ⟨high, low, first, second, rfl⟩ := stands
  exact ⟨high, low, getElem?_append first following,
    getElem?_append second following, rfl⟩

theorem LongAt.append
    {long : UInt32} (stands : LongAt octets place long)
    (following : Octets) : LongAt (octets ++ following) place long := by
  obtain ⟨high, low, first, second, rfl⟩ := stands
  exact ⟨high, low, first.append following, second.append following, rfl⟩

theorem CountAt.append
    {count : Nat} (stands : CountAt octets place count)
    (following : Octets) : CountAt (octets ++ following) place count := by
  obtain ⟨word, holds, rfl⟩ := stands
  exact ⟨word, holds.append following, rfl⟩

theorem RunAt.append
    {run : Octets} (stands : RunAt octets place run)
    (following : Octets) : RunAt (octets ++ following) place run := by
  rcases Nat.le_total place octets.length with within | beyond
  · unfold RunAt
    rw [List.drop_append_of_le_length within]
    exact stands.trans (List.prefix_append _ _)
  · unfold RunAt at stands ⊢
    rw [List.drop_eq_nil_of_le beyond, List.prefix_nil] at stands
    rw [stands]
    exact List.nil_prefix

theorem WordAt.le_length
    {word : UInt16} (stands : WordAt octets place word) :
    place + 2 ≤ octets.length := by
  obtain ⟨_, _, _, second, _⟩ := stands
  exact lt_length_of_getElem? second

theorem CountAt.le_length
    {count : Nat} (stands : CountAt octets place count) :
    place + 2 ≤ octets.length := by
  obtain ⟨_, holds, _⟩ := stands
  exact holds.le_length

theorem RunAt.le_length
    {run : Octets} (stands : RunAt octets place run)
    (within : place ≤ octets.length) :
    place + run.length ≤ octets.length := by
  have bound := stands.length_le
  rw [List.length_drop] at bound
  omega

/-- A place holds one number. -/
theorem WordAt.unique
    {word other : UInt16} (first : WordAt octets place word)
    (second : WordAt octets place other) : word = other := by
  obtain ⟨high, low, highAt, lowAt, rfl⟩ := first
  obtain ⟨_, _, sameHigh, sameLow, rfl⟩ := second
  rw [highAt, Option.some.injEq] at sameHigh
  rw [lowAt, Option.some.injEq] at sameLow
  rw [sameHigh, sameLow]

/-! ## Readers at a place -/

theorem drop_of_getElem?
    {octet : UInt8} (stands : octets[place]? = some octet) :
    octets.drop place = octet :: octets.drop (place + 1) := by
  obtain ⟨within, rfl⟩ := List.getElem?_eq_some_iff.mp stands
  exact List.drop_eq_getElem_cons within

theorem drop_of_getElem?_eq_none (nothing : octets[place]? = none) :
    octets.drop place = [] :=
  List.drop_eq_nil_of_le (List.getElem?_eq_none_iff.mp nothing)

namespace Cursor

@[simp]
theorem position_at (octets : Octets) (place : Nat) :
    (Cursor.at octets place).position = place :=
  rfl

theorem at_of_getElem?
    {octet : UInt8} (stands : octets[place]? = some octet) :
    Cursor.at octets place =
      ⟨place, octet :: octets.drop (place + 1)⟩ := by
  rw [Cursor.at, drop_of_getElem? stands]

theorem at_of_getElem?_eq_none (nothing : octets[place]? = none) :
    Cursor.at octets place = ⟨place, []⟩ := by
  rw [Cursor.at, drop_of_getElem?_eq_none nothing]

variable {after : Cursor}

theorem readWord?_at_iff {word : UInt16} :
    (Cursor.at octets place).readWord? = some (word, after) ↔
      WordAt octets place word ∧ after = .at octets (place + 2) := by
  cases first : octets[place]? with
  | none =>
      rw [at_of_getElem?_eq_none first]
      constructor
      · nofun
      · rintro ⟨⟨_, _, stands, _⟩, _⟩
        rw [first] at stands
        cases stands
  | some high =>
      cases second : octets[place + 1]? with
      | none =>
          rw [at_of_getElem? first, drop_of_getElem?_eq_none second]
          constructor
          · nofun
          · rintro ⟨⟨_, _, _, stands, _⟩, _⟩
            rw [second] at stands
            cases stands
      | some low =>
          rw [at_of_getElem? first, drop_of_getElem? second]
          constructor
          · intro read
            obtain ⟨rfl, rfl⟩ := Prod.mk.inj (Option.some.inj read)
            exact ⟨⟨high, low, first, second, rfl⟩, rfl⟩
          · rintro ⟨stands, rfl⟩
            rw [stands.unique ⟨high, low, first, second, rfl⟩]
            rfl

theorem readLong?_at_iff {long : UInt32} :
    (Cursor.at octets place).readLong? = some (long, after) ↔
      LongAt octets place long ∧ after = .at octets (place + 4) := by
  simp only [readLong?, Option.bind_eq_bind, Option.pure_def,
    Option.bind_eq_some_iff, Prod.exists, Option.some.injEq, Prod.mk.injEq,
    readWord?_at_iff]
  constructor
  · rintro ⟨high, _, ⟨first, rfl⟩, low, _, read, rfl, rfl⟩
    obtain ⟨second, rfl⟩ := readWord?_at_iff.mp read
    exact ⟨⟨high, low, first, second, rfl⟩, rfl⟩
  · rintro ⟨⟨high, low, first, second, rfl⟩, rfl⟩
    exact ⟨high, _, ⟨first, rfl⟩, low, _,
      readWord?_at_iff.mpr ⟨second, rfl⟩, rfl, rfl⟩

theorem readOctets?_at_iff {count : Nat} {run : Octets} :
    (Cursor.at octets place).readOctets? count = some (run, after) ↔
      RunAt octets place run ∧ run.length = count ∧
        after = .at octets (place + count) := by
  unfold readOctets? RunAt Cursor.at
  dsimp only
  split
  · next enough =>
    rw [Option.some.injEq, Prod.mk.injEq, List.drop_drop]
    constructor
    · rintro ⟨rfl, rfl⟩
      exact ⟨List.take_prefix _ _, List.length_take_of_le enough, rfl⟩
    · rintro ⟨stands, rfl, rfl⟩
      exact ⟨(List.prefix_iff_eq_take.mp stands).symm, rfl⟩
  · next short =>
    constructor
    · nofun
    · rintro ⟨stands, rfl, _⟩
      exact absurd stands.length_le short

end Cursor

end ResolverGrader.Dns
