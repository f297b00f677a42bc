import ResolverGrader.Text.Digits
import ResolverGrader.Text.Octets

/-!
# Domain names and their text

A domain name is a list of labels, the root being the empty list.  On the wire
each label follows its length and a zero octet ends the name; a label has one
to sixty-three octets and the wire form at most 255.  Both bounds are part of
the types, so every name that exists can be sent.

How labels of international names are shown is left to a `Library`, and so are
the records of some types.
-/

namespace ResolverGrader.Dns

/-! ## Labels and names -/

/-- The greatest number of octets in a label. -/
def maxLabelLength : Nat := 63

/-- The greatest number of octets in the wire form of a name. -/
def maxNameLength : Nat := 255

/-- One label of a domain name. -/
structure Label where
  octets : Octets
  octets_ne_nil : octets ≠ []
  length_le : octets.length ≤ maxLabelLength
  deriving DecidableEq, Repr

/-- The label with the given octets, if their number is allowed. -/
def Label.ofOctets? (octets : Octets) : Option Label :=
  if allowed : octets ≠ [] ∧ octets.length ≤ maxLabelLength then
    some ⟨octets, allowed.1, allowed.2⟩
  else none

/-- A label on the wire: its length and its octets. -/
def Label.wire (label : Label) : Octets :=
  UInt8.ofNat label.octets.length :: label.octets

/--
The number of octets that labels and the zero octet after them take on the
wire.
-/
def wireLength : List Label → Nat
  | [] => 1
  | label :: rest => label.octets.length + 1 + wireLength rest

/-- A domain name that ends at the root. -/
structure Name where
  labels : List Label
  wireLength_le : wireLength labels ≤ maxNameLength
  deriving DecidableEq, Repr

/-- The name of the root. -/
def Name.root : Name := ⟨[], by decide⟩

/--
A name with one more label before the root, if it does not become too long.
-/
def Name.snoc? (name : Name) (label : Label) : Option Name :=
  if fits : wireLength (name.labels ++ [label]) ≤ maxNameLength then
    some ⟨name.labels ++ [label], fits⟩
  else none

/-- The wire form of a name, without compression. -/
def Name.wire (name : Name) : Octets :=
  name.labels.flatMap Label.wire ++ [0]

@[simp]
theorem Label.length_wire (label : Label) :
    label.wire.length = label.octets.length + 1 := by
  simp [Label.wire]

/-- `wireLength` counts the octets of the wire form. -/
theorem Name.length_wire (name : Name) :
    name.wire.length = wireLength name.labels := by
  have counted (labels : List Label) :
      (labels.flatMap Label.wire).length + 1 = wireLength labels := by
    induction labels with
    | nil => rfl
    | cons label rest ih =>
      rw [List.flatMap_cons, List.length_append, Label.length_wire,
        Nat.add_assoc, ih]
      rfl
  rw [Name.wire, List.length_append, List.length_singleton, counted]

theorem Name.labels_of_snoc? {name longer : Name} {label : Label}
    (step : name.snoc? label = some longer) :
    longer.labels = name.labels ++ [label] := by
  simp only [Name.snoc?] at step
  split at step
  · cases step; rfl
  · cases step

/-!
## What is left to a library

The data of some types of records has a structure of its own, which says
nothing to a stub resolver, and labels of international names are shown by the
tables of Unicode.  Both are whatever a library makes of them.
-/

/--
How structured data is read and shown, and how labels of international names
are shown.
-/
structure Library where
  /--
  Reads data of a type in a message: the code of the type, the number of octets
  announced and the place of the first.  What is read is the text of the data
  and the number of octets that it took.
  -/
  structured? :
    (message : Octets) → (code : UInt16) → (length place : Nat) →
      Option (List Char × Nat)
  /--
  Data that takes the octets announced, all of them in the message, is read
  alike when more octets follow.
  -/
  structured?_append :
    ∀ {message : Octets} {code : UInt16} {length place : Nat}
      {text : List Char},
      place + length ≤ message.length →
        structured? message code length place = some (text, length) →
          ∀ following, structured? (message ++ following) code length place =
            some (text, length)
  /-- The text of a label that has the mark of one, if it is well made. -/
  unicode? : (octets : Octets) → Option (List Char)

/--
The library that reads no structured data and shows no label in Unicode.  It is
the one that is meant where none is given.
-/
def Library.plain : Library where
  structured? _ _ _ _ := none
  structured?_append _ read := nomatch read
  unicode? _ := none

/-!
## The text of a name

Labels are separated by dots and a final dot stands for the root.  Letters,
digits, `_`, `-` after the first place and `*` at the first place stand for
themselves; any other visible ASCII character, a dot included, follows a
backslash; every other octet is a backslash and three octal digits.  A label
that begins with `xn--` is shown in Unicode where that can be done.
-/

/-- Whether an octet is an ASCII letter or digit. -/
def isAlphanumericOctet (octet : UInt8) : Bool :=
  (48 ≤ octet && octet ≤ 57) || (65 ≤ octet && octet ≤ 90) ||
    (97 ≤ octet && octet ≤ 122)

/-- Whether an octet of a label is shown as it is. -/
def isPlainOctet (isFirst : Bool) (octet : UInt8) : Bool :=
  isAlphanumericOctet octet || octet = 95 || (octet = 45 && !isFirst) ||
    (octet = 42 && isFirst)

/-- Three octal digits. -/
def octalDigits (octet : UInt8) : List Char :=
  [Octets.hexDigit (octet.toNat / 64), Octets.hexDigit (octet.toNat / 8 % 8),
    Octets.hexDigit (octet.toNat % 8)]

/-- One octet of a label. -/
def octetCharacters (isFirst : Bool) (octet : UInt8) : List Char :=
  if isPlainOctet isFirst octet then [Char.ofNat octet.toNat]
  else if 32 < octet ∧ octet < 127 then ['\\', Char.ofNat octet.toNat]
  else '\\' :: octalDigits octet

/-- A label octet by octet. -/
def Label.escaped (label : Label) : List Char :=
  match label.octets with
  | [] => []
  | first :: rest =>
    octetCharacters true first ++ rest.flatMap (octetCharacters false)

/-- What the labels of international names begin with: `xn--`. -/
def unicodeMark : Octets := [0x78, 0x6e, 0x2d, 0x2d]

/-- The text of a label. -/
def Label.characters (label : Label) (library : Library := .plain) :
    List Char :=
  if unicodeMark.isPrefixOf label.octets then
    (library.unicode? label.octets).getD label.escaped
  else label.escaped

/-- The text of a name. -/
def Name.characters (name : Name) (library : Library := .plain) :
    List Char :=
  match name.labels with
  | [] => ['.']
  | labels => labels.flatMap fun label => label.characters library ++ ['.']

/-- Without a library every label is shown octet by octet. -/
@[simp]
theorem Label.characters_plain (label : Label) :
    label.characters = label.escaped :=
  ite_self label.escaped

end ResolverGrader.Dns
