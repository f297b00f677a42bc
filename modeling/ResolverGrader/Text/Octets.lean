/-!
# Octets and their text

Datagrams, standard output and file contents are lists of octets.  This module
fixes that type and two written forms of it.
-/

namespace ResolverGrader

/-!
## Hexadecimal

The written form of octets in diagnostics: two lower-case hexadecimal digits
per octet, nothing between them.

`Octets.hexDigits_append` says that the text of a concatenation is the
concatenation of the texts, and `Octets.length_hexDigits` that every octet
takes exactly two places, which is what lets two messages be compared column by
column.
-/

/-- A sequence of octets. -/
abbrev Octets := List UInt8

namespace Octets

/-- The hexadecimal digit of a number below sixteen, lower-case. -/
def hexDigit (value : Nat) : Char :=
  if value < 10 then Char.ofNat (48 + value) else Char.ofNat (87 + value)

/-- The two digits of one octet, the high half first. -/
def hexPair (octet : UInt8) : List Char :=
  [hexDigit (octet.toNat / 16), hexDigit (octet.toNat % 16)]

/-- The digits of a sequence of octets. -/
def hexDigits (octets : Octets) : List Char :=
  octets.flatMap hexPair

/-- The hexadecimal text of a sequence of octets. -/
def hex (octets : Octets) : String :=
  String.ofList octets.hexDigits

@[simp]
theorem hexDigits_nil : hexDigits [] = [] := rfl

@[simp]
theorem hexDigits_cons (octet : UInt8) (rest : Octets) :
    hexDigits (octet :: rest) = hexPair octet ++ hexDigits rest := rfl

@[simp]
theorem hexDigits_append (left right : Octets) :
    hexDigits (left ++ right) = hexDigits left ++ hexDigits right := by
  simp [hexDigits]

@[simp]
theorem length_hexDigits (octets : Octets) :
    (hexDigits octets).length = 2 * octets.length := by
  induction octets with
  | nil => rfl
  | cons octet rest ih => simp [hexPair, ih]; omega

/-- The value of a hexadecimal digit of either case. -/
def hexValue? (digit : Char) : Option Nat :=
  if '0' ≤ digit && digit ≤ '9' then some (digit.toNat - 48)
  else if 'a' ≤ digit && digit ≤ 'f' then some (digit.toNat - 87)
  else if 'A' ≤ digit && digit ≤ 'F' then some (digit.toNat - 55)
  else none

/--
Reads hexadecimal digits in pairs; an odd digit or any other character refuses
the whole.
-/
def ofHexDigits? : List Char → Option Octets
  | [] => some []
  | [_] => none
  | high :: low :: rest => do
    let highValue ← hexValue? high
    let lowValue ← hexValue? low
    let octets ← ofHexDigits? rest
    return UInt8.ofNat (highValue * 16 + lowValue) :: octets

/-- Sixteen bits, the high octet first. -/
def ofWord (word : UInt16) : Octets :=
  [UInt8.ofNat (word.toNat / 256), UInt8.ofNat (word.toNat % 256)]

end Octets

end ResolverGrader

namespace ResolverGrader.Text.Base64

/-!
## Base 64

Octets as text in the standard alphabet: each three octets give four characters
of six bits, and a last group of one or two octets is filled up with `=`.
-/

/-- The character of a six-bit number. -/
def digit (value : Nat) : Char :=
  if value < 26 then Char.ofNat (65 + value)
  else if value < 52 then Char.ofNat (97 + (value - 26))
  else if value < 62 then Char.ofNat (48 + (value - 52))
  else if value = 62 then '+'
  else '/'

/-- The text of octets, padded to a multiple of four characters. -/
def encode : Octets → List Char
  | first :: second :: third :: rest =>
    let (a, b, c) := (first.toNat, second.toNat, third.toNat)
    digit (a / 4) :: digit (a % 4 * 16 + b / 16) ::
      digit (b % 16 * 4 + c / 64) :: digit (c % 64) :: encode rest
  | [first, second] =>
    let (a, b) := (first.toNat, second.toNat)
    [digit (a / 4), digit (a % 4 * 16 + b / 16), digit (b % 16 * 4), '=']
  | [first] =>
    [digit (first.toNat / 4), digit (first.toNat % 4 * 16), '=', '=']
  | [] => []

end ResolverGrader.Text.Base64
