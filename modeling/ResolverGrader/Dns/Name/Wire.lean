import ResolverGrader.Dns.Name
import ResolverGrader.Text.Octets

/-!
# Reading a compressed name

A message is read from left to right, but names refer back to earlier places.
On the wire a name may end in a pointer to an earlier place, where the rest of
its labels stand.  The place pointed to must lie before the name that holds the
pointer, and what is read there must end before it too.  So each jump goes
strictly backwards, and reading ends for every message.
-/

namespace ResolverGrader.Dns

/-!
## A place in a message

A cursor is a place together with what follows it, and each reader takes a
cursor and returns the one after what it read, or nothing where the message
ends too early.
-/

/-- A place in a message and the octets from there on. -/
structure Cursor where
  position : Nat
  rest : Octets
  deriving DecidableEq, Repr

/-- The place with the given number of octets before it. -/
def Cursor.at (message : Octets) (position : Nat) : Cursor :=
  ⟨position, message.drop position⟩

/-- Reads one octet. -/
def Cursor.readOctet? (cursor : Cursor) : Option (UInt8 × Cursor) :=
  match cursor.rest with
  | [] => none
  | octet :: rest => some (octet, ⟨cursor.position + 1, rest⟩)

/-- Reads a number of two octets, the high octet first. -/
def Cursor.readWord? (cursor : Cursor) : Option (UInt16 × Cursor) :=
  match cursor.rest with
  | high :: low :: rest =>
    some (UInt16.ofNat (high.toNat * 256 + low.toNat),
      ⟨cursor.position + 2, rest⟩)
  | _ => none

/-- Reads a number of four octets, the high octet first. -/
def Cursor.readLong? (cursor : Cursor) : Option (UInt32 × Cursor) := do
  let (high, cursor) ← cursor.readWord?
  let (low, cursor) ← cursor.readWord?
  return (UInt32.ofNat (high.toNat * 65536 + low.toNat), cursor)

/-- Reads a given number of octets. -/
def Cursor.readOctets? (cursor : Cursor) (count : Nat) :
    Option (Octets × Cursor) :=
  if count ≤ cursor.rest.length then
    some (cursor.rest.take count,
      ⟨cursor.position + count, cursor.rest.drop count⟩)
  else none

/-! ## The parts of a name -/

/-- What the first octet of a part of a name announces. -/
inductive PartKind where
  | root
  | label (length : Nat)
  | pointer
  | reserved

/-- The kind of a part: the two highest bits tell labels and pointers apart. -/
def PartKind.of (octet : UInt8) : PartKind :=
  if octet = 0 then .root
  else if octet < 64 then .label octet.toNat
  else if octet < 192 then .reserved
  else .pointer

/--
Reads the rest of a name that began at `start`, `name` holding the labels so
far; where a limit is given, no part may begin at it or after it.
-/
def readNameFrom?
    (message : Octets)
    (start : Nat)
    (limit : Option Nat)
    (name : Name)
    (cursor : Cursor) :
    Option (Name × Cursor) :=
  if limit.any (· ≤ cursor.position) then none
  else match cursor with
    | ⟨_, []⟩ => none
    | ⟨position, first :: rest⟩ =>
      match PartKind.of first with
      | .root => some (name, ⟨position + 1, rest⟩)
      | .reserved => none
      | .label length =>
        if length ≤ rest.length then
          match (Label.ofOctets? (rest.take length)).bind name.snoc? with
          | none => none
          | some longer =>
            readNameFrom? message start limit longer
              ⟨position + 1 + length, rest.drop length⟩
        else none
      | .pointer =>
        match rest with
        | [] => none
        | second :: rest =>
          let target := first.toNat % 64 * 256 + second.toNat
          if target < start then
            match readNameFrom? message target (some start) name
                (.at message target) with
            | none => none
            | some (whole, _) => some (whole, ⟨position + 2, rest⟩)
          else none
termination_by (start, cursor.rest.length)
decreasing_by
  · exact Prod.Lex.right _
      (by simp only [List.length_drop, List.length_cons]; omega)
  · exact Prod.Lex.left _ _ (by assumption)

/-- Reads a name. -/
def Cursor.readName? (message : Octets) (cursor : Cursor) :
    Option (Name × Cursor) :=
  readNameFrom? message cursor.position none .root cursor

end ResolverGrader.Dns
